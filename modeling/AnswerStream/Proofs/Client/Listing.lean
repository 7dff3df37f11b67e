import AnswerStream.Proofs.Client.Page
import AnswerStream.Proofs.Thread.Dating
import AnswerStream.Proofs.Thread.Paging

/-!
What a listing comes to. A library is served page by page; the pages put together are the library,
whatever transient failures precede each of them, and a page that fails for good or is given up ends
the listing.
-/

namespace AnswerStream

variable {σ : Type}

def Event.paged? : Event → Option (Nat × Nat)
  | .paged fetched total => some (fetched, total)
  | _ => none

/-- What the observer of pages is told among events. -/
def pagings (events : List Event) : List (Nat × Nat) := events.filterMap Event.paged?

theorem pagings_append (as bs : List Event) : pagings (as ++ bs) = pagings as ++ pagings bs :=
  List.filterMap_append

/-- The events that a page leaves with observers. -/
def Surroundings.told (w : Surroundings σ) (fetched total : Nat) : List Event :=
  if w.watch.pages then [.paged fetched total] else []

namespace Client
open Call (Yields)

variable {c : Client} {w : Surroundings σ} {q : ThreadQuery} {r : Request} {t t' t'' : σ}

/-- The entries behind an offset, as many as a limit allows. The first of them tells whether there
are more and how many there are in all. -/
def pageAt (entries : List ThreadEntry) (offset limit : Nat) : List ThreadEntry :=
  match (entries.drop offset).take limit with
  | [] => []
  | first :: rest =>
    { first with
      hasNextPage := offset + limit < entries.length
      totalThreads := some entries.length } :: rest

/-- The number of pages of a hundred that have an entry. -/
def fullPages (entries : List ThreadEntry) : Nat := (entries.length + 99) / 100

/-- The records of the entries on the first pages. -/
def recordsOf (c : Client) (entries : List ThreadEntry) (pages : Nat) : List ThreadRecord :=
  (entries.take (pageSize * pages)).filterMap (ThreadRecord.ofEntry? c.config.baseUrl)

/-- The number of all entries, which the first page tells. -/
def toldTotal (entries : List ThreadEntry) : (pages : Nat) → Option Nat
  | 0 => none
  | _ + 1 => some entries.length

theorem pagings_fetched (r : Request) (sent : Nat) : pagings (fetched r sent) = [] := by
  rw [pagings, fetched, List.filterMap_flatMap]
  exact List.flatMap_eq_nil_iff.mpr fun _ _ => rfl

section Library

variable {entries : List ThreadEntry} {j : Nat}

theorem pageAt_of_length_le (h : entries.length ≤ pageSize * j) :
    pageAt entries (pageSize * j) pageSize = [] := by
  rw [pageAt, List.drop_eq_nil_of_le h]
  rfl

theorem pageAt_of_lt_length (h : pageSize * j < entries.length) :
    ∃ first rest, pageAt entries (pageSize * j) pageSize = first :: rest ∧
      first.hasNextPage = decide (pageSize * (j + 1) < entries.length) ∧
      first.totalThreads = some entries.length := by
  have hpage : (entries.drop (pageSize * j)).take pageSize ≠ [] := by
    rw [← List.length_pos_iff, List.length_take, List.length_drop]
    exact lt_min (by decide) (Nat.sub_pos_of_lt h)
  obtain ⟨first, rest, hfirst⟩ := List.exists_cons_of_ne_nil hpage
  rw [pageAt, hfirst]
  exact ⟨_, rest, rfl, rfl, rfl⟩

/-- What the first entry of a page tells does not get into the records. -/
theorem filterMap_pageAt (baseUrl : String) (offset : Nat) :
    (pageAt entries offset pageSize).filterMap (ThreadRecord.ofEntry? baseUrl) =
      ((entries.drop offset).take pageSize).filterMap (ThreadRecord.ofEntry? baseUrl) := by
  rw [pageAt]
  split
  · next h => rw [h]
  · next first rest h =>
    rw [h, List.filterMap_cons, List.filterMap_cons]
    rfl

theorem recordsOf_succ (c : Client) (entries : List ThreadEntry) (j : Nat) :
    c.recordsOf entries (j + 1) = c.recordsOf entries j ++
      (pageAt entries (pageSize * j) pageSize).filterMap
      (ThreadRecord.ofEntry? c.config.baseUrl) := by
  rw [filterMap_pageAt, recordsOf, recordsOf, Nat.mul_succ, List.take_add, List.filterMap_append]

/-- A page that has entries: its records and, where it is not the last one, what comes of those
after it. -/
theorem yields_pagesFrom_cons (hw : w.Calm) {left : Nat} {es es' : List Event}
    {result : Except Failure (List ThreadRecord)} (hj : pageSize * j < entries.length)
    (hpage : Yields (w.withRetries c.policy (fetchPage w (c.pageRequest q (pageSize * j)))) t
      (.ok (pageAt entries (pageSize * j) pageSize)) t' es)
    (hnext : pageSize * (j + 1) < entries.length → Yields
      (c.pagesFrom w q (c.recordsOf entries (j + 1)) (toldTotal entries (j + 1))
       (pageSize * (j + 1))
        left) t' result t'' es')
    (hlast : entries.length ≤ pageSize * (j + 1) →
      Yields (pure (c.recordsOf entries (j + 1)) : Call σ _) t' result t'' es') :
    Yields
      (c.pagesFrom w q (c.recordsOf entries j) (toldTotal entries j) (pageSize * j) (left + 1))
      t result t'' (es ++ w.told (c.recordsOf entries (j + 1)).length entries.length ++ es') := by
  obtain ⟨first, rest, hfirst, hmore, hlength⟩ := pageAt_of_lt_length hj
  have hrecords := c.recordsOf_succ entries j
  have hcount : (toldTotal entries j).getD (first.totalThreads.getD (first :: rest).length) =
      entries.length := by
    rw [hlength]
    cases j <;> rfl
  have hrest : Yields
      (if pageSize * (j + 1) < entries.length then
        c.pagesFrom w q (c.recordsOf entries (j + 1)) (some entries.length)
          (pageSize * (j + 1)) left
      else pure (c.recordsOf entries (j + 1))) t' result t'' es' := by
    split
    · next h => exact hnext h
    · next h => exact hlast (not_lt.mp h)
  rw [hfirst] at hpage hrecords
  rw [pagesFrom, List.append_assoc]
  refine hpage.bind_ok ?_
  simp only [hcount, ← hrecords, hmore, decide_eq_true_eq]
  unfold Surroundings.told
  cases w.watch.pages with
  | true => exact (hw.emit _ t').bind_ok hrest
  | false => exact hrest

theorem yields_pagesFrom_nil (hj : entries.length ≤ pageSize * j) {records : List ThreadRecord}
    {total : Option Nat} {left : Nat} {es : List Event}
    (hpage : Yields (w.withRetries c.policy (fetchPage w (c.pageRequest q (pageSize * j)))) t
      (.ok (pageAt entries (pageSize * j) pageSize)) t' es) :
    Yields (c.pagesFrom w q records total (pageSize * j) (left + 1)) t (.ok records) t' es := by
  rw [pageAt_of_length_le hj] at hpage
  rw [pagesFrom]
  exact hpage.bind_silent (.pure records t')

theorem yields_pagesFrom_error {records : List ThreadRecord} {total : Option Nat} {left : Nat}
    {e : Failure} {es : List Event}
    (hpage : Yields (w.withRetries c.policy (fetchPage w (c.pageRequest q (pageSize * j)))) t
      (.error e) t' es) :
    Yields (c.pagesFrom w q records total (pageSize * j) (left + 1)) t (.error e) t' es := by
  rw [pagesFrom]
  exact hpage.bind_error _

/-- The pages that are asked for: at least one. -/
def pageCount (entries : List ThreadEntry) : Nat := max 1 (fullPages entries)

theorem lt_pageCount_iff {n : Nat} :
    n < pageCount entries ↔ pageSize * n < entries.length ∨ n = 0 := by
  rw [pageSize, pageCount, fullPages]
  omega

theorem pageCount_le_iff {n : Nat} :
    pageCount entries ≤ n + 1 ↔ entries.length ≤ pageSize * (n + 1) := by
  rw [pageSize, pageCount, fullPages]
  omega

section Run

variable {sent : Nat → Nat}

/-- The state of a transport that the first pages have been asked for in turn, each some number of
times. -/
def pageState (c : Client) (w : Surroundings σ) (q : ThreadQuery) (sent : Nat → Nat) (t : σ) :
    (pages : Nat) → σ
  | 0 => t
  | j + 1 => w.transport.posted (c.pageRequest q (pageSize * j)) (c.pageState w q sent t j) (sent j)

/-- A transport that brings the first pages of a library. -/
def Pages (c : Client) (w : Surroundings σ) (q : ThreadQuery) (entries : List ThreadEntry)
    (sent : Nat → Nat) (t : σ) (pages : Nat) : Prop :=
  ∀ j < pages, w.transport.Brings c.policy (c.pageRequest q (pageSize * j))
    (c.pageState w q sent t j)
    (sent j) (.ok (pageAt entries (pageSize * j) pageSize))

/-- The events of the first pages of a library. -/
def pageEvents (c : Client) (w : Surroundings σ) (q : ThreadQuery) (entries : List ThreadEntry)
    (sent : Nat → Nat) (j : Nat) : List Event :=
  fetched (c.pageRequest q (pageSize * j)) (sent j) ++
    w.told (c.recordsOf entries (j + 1)).length entries.length

/-- The pages in front of one that is to come put their records together. -/
theorem yields_pagesFrom_skip (hw : w.Calm) {n left : Nat} {es : List Event}
    {result : Except Failure (List ThreadRecord)} (hpages : c.Pages w q entries sent t n)
    (hn : n < pageCount entries)
    (hrest : Yields (c.pagesFrom w q (c.recordsOf entries n)
      (toldTotal entries n) (pageSize * n) left) (c.pageState w q sent t n)
      result t' es) :
    Yields (c.pagesFrom w q [] none 0 (left + n)) t result t'
      ((List.range n).flatMap (c.pageEvents w q entries sent) ++ es) := by
  induction n generalizing left es with
  | zero => exact hrest
  | succ n ih =>
    have hlater : pageSize * (n + 1) < entries.length :=
      (lt_pageCount_iff.mp hn).resolve_right (by simp)
    have hentries : pageSize * n < entries.length :=
      lt_of_le_of_lt (Nat.mul_le_mul_left _ n.le_succ) hlater
    have hpage := yields_page hw (hpages n n.lt_succ_self)
    have hstep := yields_pagesFrom_cons hw hentries hpage (fun _ => hrest)
      fun hlast => absurd hlater hlast.not_gt
    have hrun := ih (fun j hj => hpages j (hj.trans n.lt_succ_self)) (n.lt_succ_self.trans hn) hstep
    rw [List.range_succ, List.flatMap_append, List.flatMap_singleton, List.append_assoc]
    rw [Nat.add_right_comm, Nat.add_assoc] at hrun
    exact hrun

/-- The requests for the first pages, each posted some number of times. -/
def pageRequests (c : Client) (q : ThreadQuery) (sent : Nat → Nat) (pages : Nat) : List Request :=
  (List.range pages).flatMap fun j => List.replicate (sent j) (c.pageRequest q (pageSize * j))

/-- What an observer is told of the first pages of a hundred: how many entries so far have a date,
and how many there are in all. -/
def pageNotices (w : Surroundings σ) (entries : List ThreadEntry) (pages : Nat) :
    List (Nat × Nat) :=
  if w.watch.pages then
    (List.range pages).map fun j =>
      ((entries.take (100 * (j + 1))).countP fun e => e.createdAt?.isSome, entries.length)
  else []

/-- What the requests among events ask for. -/
def asks (events : List Event) : List (Option PageAsk) :=
  (requests events).map fun r => PageAsk.ofBody? r.body

/-- The requests for the first pages ask for a hundred entries each, behind those of the pages in
front. -/
def pageAsks (q : ThreadQuery) (sent : Nat → Nat) (pages : Nat) : List (Option PageAsk) :=
  (List.range pages).flatMap fun j =>
    List.replicate (sent j) (some ⟨100 * j, 100, false, q.searchTerm.getD ""⟩)

/-- A transport that answers the requests for the first pages of a library by the entries that they
ask for, each after some transient failures. -/
def Serves (c : Client) (w : Surroundings σ) (q : ThreadQuery) (entries : List ThreadEntry)
    (sent : Nat → Nat) (t : σ) (pages : Nat) : Prop :=
  ∀ j < pages, ∀ ask, PageAsk.ofBody? (c.pageRequest q (pageSize * j)).body = some ask →
    w.transport.Brings c.policy (c.pageRequest q (pageSize * j)) (c.pageState w q sent t j) (sent j)
      (.ok (pageAt entries ask.offset ask.limit))

theorem requests_pageEvents (entries : List ThreadEntry) (n : Nat) :
    requests ((List.range n).flatMap (c.pageEvents w q entries sent)) =
      c.pageRequests q sent n := by
  have hpage (j : Nat) : requests (c.pageEvents w q entries sent j) =
      List.replicate (sent j) (c.pageRequest q (pageSize * j)) := by
    have htold : requests (w.told (c.recordsOf entries (j + 1)).length entries.length) = [] := by
      unfold Surroundings.told
      split <;> rfl
    rw [pageEvents, requests_append, requests_fetched, htold, List.append_nil]
  rw [requests, List.filterMap_flatMap]
  exact congrArg (List.flatMap · (List.range n)) (funext hpage)

theorem length_recordsOf (c : Client) (entries : List ThreadEntry) (pages : Nat) :
    (c.recordsOf entries pages).length =
      (entries.take (pageSize * pages)).countP fun e => e.createdAt?.isSome := by
  rw [recordsOf, List.length_filterMap_eq_countP]
  exact List.countP_congr fun e _ => by rw [ThreadRecord.ofEntry?, Option.isSome_map]

theorem pagings_pageEvents (entries : List ThreadEntry) (n : Nat) :
    pagings ((List.range n).flatMap (c.pageEvents w q entries sent)) = pageNotices w entries n := by
  have hpage (j : Nat) : pagings (c.pageEvents w q entries sent j) =
      if w.watch.pages then
        [((entries.take (pageSize * (j + 1))).countP fun e => e.createdAt?.isSome, entries.length)]
      else [] := by
    rw [pageEvents, pagings_append, pagings_fetched, List.nil_append, ← c.length_recordsOf,
      Surroundings.told]
    split <;> rfl
  rw [pagings, List.filterMap_flatMap, pageNotices]
  change (List.range n).flatMap (fun j => pagings (c.pageEvents w q entries sent j)) = _
  simp only [hpage]
  split
  · exact List.map_eq_flatMap.symm
  · exact List.flatMap_eq_nil_iff.mpr fun _ _ => rfl

theorem length_lt_of_brings {policy : RetryPolicy} {n : Nat} (hj : pageSize * j < entries.length)
    (h : w.transport.Brings policy r t n (.ok (pageAt entries (pageSize * j) pageSize))) :
    entries.length < Nat.pow 2 64 := by
  obtain ⟨first, rest, hfirst, -, hlength⟩ := pageAt_of_lt_length hj
  rw [hfirst] at h
  generalize hresult : (.ok (first :: rest) : Except Failure (List ThreadEntry)) = result at h
  cases h with
  | @settled script k =>
    cases hscript : script k with
    | error e => rw [hscript] at hresult; cases hresult
    | ok response =>
      rw [hscript] at hresult
      exact ThreadEntry.totalThreads_lt hresult.symm (List.mem_cons_self ..) hlength
  | exhausted => cases hresult

/-- All pages of a library have offsets of 64 bits, as its first page tells how many entries it has.
-/
theorem offset_lt {n : Nat} (hn : n < pageCount entries)
    (hfirst : 0 < n → ∃ k, w.transport.Brings c.policy (c.pageRequest q 0) t k
      (.ok (pageAt entries 0 pageSize))) : pageSize * n < 2 ^ 64 := by
  rcases Nat.eq_zero_or_pos n with rfl | hpos
  · decide
  · have hmore : pageSize * n < entries.length :=
      (lt_pageCount_iff.mp hn).resolve_right hpos.ne'
    obtain ⟨k, hbrings⟩ := hfirst hpos
    have hsome : pageSize * 0 < entries.length := lt_of_le_of_lt (Nat.zero_le _) hmore
    exact hmore.trans (length_lt_of_brings hsome hbrings)

theorem lt_mostPages {n : Nat} (hn : n < pageCount entries)
    (hpages : c.Pages w q entries sent t n) :
    n < mostPages := by
  have hoffset : pageSize * n < 2 ^ 64 := offset_lt hn fun hpos => ⟨_, hpages 0 hpos⟩
  have hpage : n < 2 ^ 64 / 100 + 1 := by
    rw [pageSize] at hoffset
    omega
  exact hpage

theorem ofBody?_pageRequest {n : Nat} (hoffset : pageSize * n < 2 ^ 64) :
    PageAsk.ofBody? (c.pageRequest q (pageSize * n)).body =
      some ⟨100 * n, 100, false, q.searchTerm.getD ""⟩ := ofBody?_pageBody q hoffset

theorem Serves.pages {n : Nat} (h : c.Serves w q entries sent t n) (hn : n ≤ pageCount entries) :
    c.Pages w q entries sent t n := by
  intro j hj
  have hoffset : pageSize * j < 2 ^ 64 := offset_lt (hj.trans_le hn) fun hpos =>
    ⟨_, h 0 (hpos.trans hj) _ (ofBody?_pageRequest (by decide))⟩
  exact h j hj _ (ofBody?_pageRequest hoffset)

theorem map_pageRequests {n : Nat} (hn : n ≤ pageCount entries)
    (hpages : c.Pages w q entries sent t (n - 1)) :
    (c.pageRequests q sent n).map (fun r => PageAsk.ofBody? r.body) = pageAsks q sent n := by
  have hask : ∀ j ∈ List.range n,
      (List.replicate (sent j) (c.pageRequest q (pageSize * j))).map
        (fun r => PageAsk.ofBody? r.body) =
      List.replicate (sent j) (some ⟨100 * j, 100, false, q.searchTerm.getD ""⟩) := by
    intro j hj
    have hbefore : j < n := List.mem_range.mp hj
    rw [List.map_replicate, ofBody?_pageRequest]
    exact offset_lt (hbefore.trans_le hn) fun hpos => ⟨_, hpages 0 (by omega)⟩
  rw [pageRequests, List.map_flatMap, pageAsks]
  exact List.flatMap_congr hask

theorem recordsOf_pageCount (c : Client) (entries : List ThreadEntry) :
    c.recordsOf entries (pageCount entries) =
      entries.filterMap (ThreadRecord.ofEntry? c.config.baseUrl) := by
  have hall : entries.length ≤ pageSize * pageCount entries := by
    rw [pageSize, pageCount, fullPages]
    omega
  rw [recordsOf, List.take_of_length_le hall]

theorem yields_pages_of_nil (hw : w.Calm) (hpages : c.Pages w q [] sent t 1) :
    Yields (c.pagesFrom w q [] none 0 mostPages) t (.ok []) (c.pageState w q sent t 1)
      (fetched (c.pageRequest q 0) (sent 0)) :=
  yields_pagesFrom_nil (j := 0) (le_refl 0) (yields_page hw (hpages 0 Nat.one_pos))

theorem yields_pages_of_ne_nil (hw : w.Calm) (hentries : entries ≠ [])
    (hpages : c.Pages w q entries sent t (pageCount entries)) :
    Yields (c.pagesFrom w q [] none 0 mostPages) t (.ok (c.recordsOf entries (pageCount entries)))
      (c.pageState w q sent t (pageCount entries))
      ((List.range (pageCount entries)).flatMap (c.pageEvents w q entries sent)) := by
  obtain ⟨n, hn⟩ : ∃ n, pageCount entries = n + 1 :=
    Nat.exists_eq_succ_of_ne_zero (Nat.one_pos.trans_le (le_max_left _ _)).ne'
  have hbefore : n < pageCount entries := hn ▸ n.lt_succ_self
  have hfirst : c.Pages w q entries sent t n := fun j hj => hpages j (hj.trans hbefore)
  have hsome : pageSize * n < entries.length := by
    have hpos := List.length_pos_iff.mpr hentries
    rcases lt_pageCount_iff.mp hbefore with hsome | rfl
    · exact hsome
    · exact hpos
  have hnone : entries.length ≤ pageSize * (n + 1) := pageCount_le_iff.mp hn.le
  obtain ⟨left, hleft⟩ := Nat.exists_eq_add_of_lt (lt_mostPages hbefore hfirst)
  have hlast : Yields (c.pagesFrom w q (c.recordsOf entries n) (toldTotal entries n) (pageSize * n)
      (left + 1)) (c.pageState w q sent t n) _ _ _ :=
    yields_pagesFrom_cons hw hsome (yields_page hw (hpages n hbefore))
      (fun hmore => absurd hmore hnone.not_gt) fun _ => .pure _ _
  have hrun := yields_pagesFrom_skip hw hfirst hbefore hlast
  have hmost : left + 1 + n = mostPages := by omega
  rw [hmost, List.append_nil] at hrun
  rw [hn, List.range_succ, List.flatMap_append, List.flatMap_singleton]
  exact hrun

theorem list_of_pages (hw : w.Calm) (hpages : c.Pages w q entries sent t (pageCount entries)) :
    ∃ events,
      Yields (c.list w q) t
        (.ok ((entries.filterMap (ThreadRecord.ofEntry? c.config.baseUrl)).filter q.accepts))
        (c.pageState w q sent t (pageCount entries)) events ∧
      requests events = c.pageRequests q sent (pageCount entries) ∧
      pagings events = pageNotices w entries (fullPages entries) := by
  rcases eq_or_ne entries [] with rfl | hentries
  · have hrun := yields_pages_of_nil hw hpages
    refine ⟨_, hrun.bind_silent (.pure _ _), ?_, ?_⟩
    · rw [requests_fetched]
      exact (List.append_nil _).symm
    · rw [pagings_fetched]
      unfold pageNotices
      split <;> rfl
  · have hrun := yields_pages_of_ne_nil hw hentries hpages
    have hfull : pageCount entries = fullPages entries := by
      have hpos := List.length_pos_iff.mpr hentries
      rw [pageCount, fullPages]
      omega
    rw [recordsOf_pageCount] at hrun
    exact ⟨_, hrun.bind_silent (.pure _ _), requests_pageEvents entries _,
      hfull ▸ pagings_pageEvents entries _⟩

theorem list_of_failure (hw : w.Calm) {n : Nat} {e : Failure} (hn : n < pageCount entries)
    (hpages : c.Pages w q entries sent t n)
    (hfails : w.transport.Brings c.policy (c.pageRequest q (pageSize * n))
      (c.pageState w q sent t n) (sent n) (.error e)) :
    ∃ events,
      Yields (c.list w q) t (.error e) (c.pageState w q sent t (n + 1)) events ∧
      requests events = c.pageRequests q sent (n + 1) ∧
      pagings events = pageNotices w entries n := by
  obtain ⟨left, hleft⟩ := Nat.exists_eq_add_of_lt (lt_mostPages hn hpages)
  have hlast := @yields_pagesFrom_error _ c w q _ _ n (c.recordsOf entries n) (toldTotal entries n)
    left e _ (yields_page hw hfails)
  have hrun := yields_pagesFrom_skip hw hpages hn hlast
  have hmost : left + 1 + n = mostPages := by omega
  rw [hmost] at hrun
  refine ⟨_, hrun.bind_error _, ?_, ?_⟩
  · rw [requests_append, requests_pageEvents, requests_fetched, pageRequests, pageRequests,
      List.range_succ, List.flatMap_append, List.flatMap_singleton]
  · rw [pagings_append, pagings_pageEvents, pagings_fetched, List.append_nil]

theorem pageOutcome_pageResponse {page : List ThreadEntry}
    (h : ∀ e ∈ page, ∀ k ∈ e.totalThreads, k < 2 ^ 64) :
    pageOutcome (.ok (ThreadEntry.pageResponse page)) = .ok page :=
  ThreadEntry.ofResponse_pageResponse h

/-- A library that a server hands out by the offset and the limit of each request, each page after
any number of transient failures that the policy allows for, is listed in full and in order. The
requests ask for a hundred entries each, from the first one on, once for every try. A page that
fails for good or is given up ends the listing with its failure. Any page that a server writes is
read as it was written, and of its records the query takes those of the days that it spans. -/
theorem list_outcome (hw : w.Calm) :
    (c.Serves w q entries sent t (pageCount entries) →
      ∃ events,
        Yields (c.list w q) t
          (.ok ((entries.filterMap (ThreadRecord.ofEntry? c.config.baseUrl)).filter q.accepts))
          (c.pageState w q sent t (pageCount entries)) events ∧
        requests events = c.pageRequests q sent (pageCount entries) ∧
        asks events = pageAsks q sent (pageCount entries) ∧
        pagings events = pageNotices w entries (fullPages entries)) ∧
    (∀ n < pageCount entries, c.Serves w q entries sent t n → ∀ e,
      w.transport.Brings c.policy (c.pageRequest q (pageSize * n)) (c.pageState w q sent t n)
        (sent n) (.error e) →
      ∃ events,
        Yields (c.list w q) t (.error e) (c.pageState w q sent t (n + 1)) events ∧
        requests events = c.pageRequests q sent (n + 1) ∧
        asks events = pageAsks q sent (n + 1) ∧
        pagings events = pageNotices w entries n) ∧
    (∀ page : List ThreadEntry, (∀ e ∈ page, ∀ k ∈ e.totalThreads, k < 2 ^ 64) →
      pageOutcome (.ok (ThreadEntry.pageResponse page)) = .ok page) ∧
    (q.Bounded → ∀ record, q.accepts record = true ↔ q.Spans record.createdAt.date) ∧
    c.KeepsTime := by
  refine ⟨fun hserves => ?_, fun n hn hserves e hfails => ?_,
    fun page hpage => pageOutcome_pageResponse hpage, ThreadQuery.accepts_iff, c.keepsTime⟩
  · have hpages := hserves.pages le_rfl
    obtain ⟨events, hrun, hsent, htold⟩ := list_of_pages hw hpages
    have hasked : asks events = pageAsks q sent (pageCount entries) := by
      rw [asks, hsent]
      exact map_pageRequests le_rfl fun j hj => hpages j (hj.trans_le (Nat.sub_le _ 1))
    exact ⟨events, hrun, hsent, hasked, htold⟩
  · have hpages := hserves.pages hn.le
    obtain ⟨events, hrun, hsent, htold⟩ := list_of_failure hw hn hpages hfails
    have hasked : asks events = pageAsks q sent (n + 1) := by
      rw [asks, hsent]
      exact map_pageRequests hn hpages
    exact ⟨events, hrun, hsent, hasked, htold⟩

end Run

theorem totalThreads_pageAt {offset limit : Nat} (hlength : entries.length < 2 ^ 64)
    (htotal : ∀ e ∈ entries, ∀ k ∈ e.totalThreads, k < 2 ^ 64) :
    ∀ e ∈ pageAt entries offset limit, ∀ k ∈ e.totalThreads, k < 2 ^ 64 := by
  intro e he k hk
  rw [pageAt] at he
  split at he
  · cases he
  · next first rest hpage =>
    rcases List.mem_cons.mp he with rfl | hrest
    · obtain rfl : entries.length = k := Option.some.inj hk
      exact hlength
    · have hmem : e ∈ (entries.drop offset).take limit := hpage ▸ List.mem_cons_of_mem _ hrest
      exact htotal e (List.mem_of_mem_drop (List.mem_of_mem_take hmem)) k hk

end Library

section Serving

variable {entries : List ThreadEntry} {most n : Nat}

/-- What a server answers its posts: every other connection is reset, and the entries that the body
asks for come in between, until a number of posts after which all is refused. -/
def reply (entries : List ThreadEntry) (most n : Nat) (body : String) :
    Except TransportError Response :=
  if most ≤ n then .error (.status 401 "expired")
  else if n % 2 = 0 then .error (.connectionReset "gone")
  else match PageAsk.ofBody? body with
    | some ask => .ok (ThreadEntry.pageResponse (pageAt entries ask.offset ask.limit))
    | none => .error (.status 400 "bad request")

def serving (entries : List ThreadEntry) (most : Nat) : Surroundings Nat where
  transport :=
    { post := fun n r => (n + 1, .now (reply entries most n r.body))
      stream := fun n _ => (n + 1, .never) }
  draw := id
  cancelAt := none
  cancelOn := fun _ => false
  watch := .all

theorem posted_serving (m : Nat) : (serving entries most).transport.posted r n m = n + m := by
  induction m with
  | zero => rfl
  | succ m ih => rw [Transport.posted, ih]; rfl

theorem answers_serving (m : Nat) : (serving entries most).transport.Answers r n m fun i =>
    reply entries most (n + i) r.body :=
  fun i _ => ⟨.zero, by rw [posted_serving]; rfl⟩

theorem pageState_serving (j : Nat) :
    c.pageState (serving entries most) q (fun _ => 2) 0 j = 2 * j := by
  induction j with
  | zero => rfl
  | succ j ih => rw [pageState, posted_serving, ih, Nat.mul_succ]

theorem transient_reply (h : 2 * n < most) (body : String) :
    Transient (pageOutcome (reply entries most (2 * n) body)) := by
  rw [reply, if_neg (not_le.mpr h), if_pos (Nat.mul_mod_right 2 n)]
  exact ⟨_, rfl, rfl⟩

theorem serves_serving (hlength : entries.length < 2 ^ 64)
    (htotal : ∀ e ∈ entries, ∀ k ∈ e.totalThreads, k < 2 ^ 64) (hpolicy : 2 ≤ c.policy.maxAttempts)
    (hmost : 2 * n ≤ most) : c.Serves (serving entries most) q entries (fun _ => 2) 0 n := by
  intro j hj ask hask
  have hreply : pageOutcome (reply entries most (2 * j + 1) (c.pageRequest q (pageSize * j)).body) =
      .ok (pageAt entries ask.offset ask.limit) := by
    rw [reply, if_neg (by omega), if_neg (by omega), hask]
    exact pageOutcome_pageResponse (totalThreads_pageAt hlength htotal)
  have htransient : ∀ i < 1, Transient
      (pageOutcome (reply entries most (2 * j + i) (c.pageRequest q (pageSize * j)).body)) := by
    intro i hi
    obtain rfl := Nat.lt_one_iff.mp hi
    exact transient_reply (by omega) _
  rw [pageState_serving, ← hreply]
  refine .settled (k := 1) hpolicy (answers_serving 2) htransient ?_
  rw [hreply]
  rintro ⟨e, ⟨⟩, -⟩

end Serving

/-- Two pages. The first entry and the last one have a date. -/
def library : List ThreadEntry :=
  ⟨"First", "first", some "2024-05-01T10:00:00Z", false, none⟩ ::
    (List.replicate 99 ⟨"Undated", "undated", none, false, none⟩ ++
      [⟨"Last", "last", some "2024-05-02T10:00:00Z", false, none⟩])

theorem totalThreads_library : ∀ e ∈ library, ∀ k ∈ e.totalThreads, k < 2 ^ 64 := by
  have hnone : ∀ e ∈ library, e.totalThreads = none := by simp [library]
  intro e he k hk
  rw [hnone e he] at hk
  cases hk

/-- Both pages come at the second try; and a server that refuses the fourth post ends the listing.
-/
theorem list_outcome_refusing :
    let c : Client := ⟨.standard, .of 2 .zero .zero, "token"⟩
    let q : ThreadQuery := ⟨none, none, none⟩
    let sent := List.replicate 2 (some ⟨0, 100, false, ""⟩) ++
      List.replicate 2 (some (⟨100, 100, false, ""⟩ : PageAsk))
    (∃ records events, Yields (c.list (serving library 4) q) 0 (.ok records) 4 events ∧
      records.map (·.title) = ["First", "Last"] ∧ asks events = sent ∧
      pagings events = [(1, 101), (2, 101)]) ∧
    ∃ events,
      Yields (c.list (serving library 3) q) 0 (.error (.authentication 401 "expired")) 4 events ∧
      asks events = sent ∧ pagings events = [(1, 101)] := by
  intro c q sent
  have hlength : library.length < 2 ^ 64 := by decide
  have hw (most : Nat) : (serving library most).Calm := ⟨rfl, fun _ => rfl⟩
  have hserves {most n : Nat} (hmost : 2 * n ≤ most) :
      c.Serves (serving library most) q library (fun _ => 2) 0 n :=
    serves_serving hlength totalThreads_library le_rfl hmost
  constructor
  · obtain ⟨events, hrun, -, hasked, htold⟩ :=
      (list_outcome (hw 4)).1 (hserves (n := pageCount library) le_rfl)
    have htitles : ((library.filterMap (ThreadRecord.ofEntry? c.config.baseUrl)).filter
        q.accepts).map (·.title) = ["First", "Last"] := by decide +kernel
    exact ⟨_, events, hrun, htitles, hasked, htold⟩
  · have htransient : ∀ i < 1, Transient
        (pageOutcome (reply library 3 (2 + i) (c.pageRequest q (pageSize * 1)).body)) := by
      intro i hi
      obtain rfl := Nat.lt_one_iff.mp hi
      exact transient_reply (n := 1) (by decide) _
    have hrefused : ¬ Transient (pageOutcome (reply library 3 3
        (c.pageRequest q (pageSize * 1)).body)) := by
      rintro ⟨e, ⟨⟩, hclass⟩
      cases hclass
    have hfails := @Transport.Brings.settled _ (serving library 3).transport c.policy _ _ _ 1
      (by decide) (answers_serving 2) htransient hrefused
    obtain ⟨events, hrun, -, hasked, htold⟩ := (list_outcome (hw 3)).2.1 1 (by decide)
      (hserves (by decide)) _ hfails
    exact ⟨events, hrun, hasked, htold⟩

end Client
end AnswerStream
