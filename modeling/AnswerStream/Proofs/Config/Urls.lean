import AnswerStream.Config.Basic
import AnswerStream.Proofs.Checking
import AnswerStream.Proofs.Text.Cutting

/-!
The URLs of settings that are judged to be sound. They are made of the base URL and an endpoint with
one slash between the two. That slash takes the place of all slashes at the end of the base URL, and
the two of the scheme are among these if nothing else follows it. So the URLs have something other
than a slash behind their scheme just if the base URL has.
-/

namespace AnswerStream

/-- A URL is a stem, one slash and a path: the base URL but for slashes at its end, and the endpoint
but for those at its front. -/
def Joins (base endpoint url : String) : Prop :=
  ∃ (stem path : List Char) (m n : Nat),
    base.toList = stem ++ List.replicate m '/' ∧ stem.getLast? ≠ some '/' ∧
      endpoint.toList = List.replicate n '/' ++ path ∧ path.head? ≠ some '/' ∧
        url.toList = stem ++ '/' :: path

/-- A text names a server by a scheme if the scheme is in front, and no slash follows it but
something else. -/
def NamesServer (scheme url : String) : Prop :=
  ∃ c rest, url.toList = scheme.toList ++ c :: rest ∧ c ≠ '/'

theorem namesServer_iff_of_eq {scheme url : String} {c : Char} {rest : List Char}
    (h : url.toList = scheme.toList ++ c :: rest) : NamesServer scheme url ↔ c ≠ '/' := by
  constructor
  · rintro ⟨c', rest', h', hc'⟩
    obtain ⟨rfl, -⟩ := List.cons_eq_cons.mp (List.append_cancel_left (h.symm.trans h'))
    exact hc'
  · intro hc
    exact ⟨c, rest, h, hc⟩

theorem joins_joinUrl (base endpoint : String) :
    Joins base endpoint (ClientConfig.joinUrl base endpoint) := by
  obtain ⟨m, hbase, hstem⟩ := Text.exists_dropTrailing '/' base
  obtain ⟨n, hendpoint, hpath⟩ := Text.exists_dropLeading '/' endpoint
  refine ⟨_, _, m, n, hbase, hstem, hendpoint, hpath, ?_⟩
  simp [ClientConfig.joinUrl]

/-- A URL names a server just if the base URL does: the slashes that are dropped from it belong to
its scheme otherwise, and one slash does not make up for two. -/
theorem namesServer_iff {scheme base url : String} {front stem tail : List Char} {m : Nat}
    (hscheme : scheme.toList = front ++ ['/', '/']) (hstarts : scheme.toList <+: base.toList)
    (hbase : base.toList = stem ++ List.replicate m '/') (hstem : stem.getLast? ≠ some '/')
    (hurl : url.toList = stem ++ '/' :: tail) (htail : tail.head? ≠ some '/') :
    NamesServer scheme url ↔ NamesServer scheme base := by
  obtain ⟨rest, hrest⟩ := hstarts
  rcases List.append_eq_append_iff.mp (hbase.symm.trans hrest.symm) with
    ⟨more, hmore, hslashes⟩ | ⟨more, hmore, hslashes⟩
  · have hslash {c : Char} (hc : c ∈ more ++ rest) : c = '/' :=
      List.eq_of_mem_replicate (hslashes ▸ hc)
    refine iff_of_false ?_ ?_
    · rintro ⟨c, r, hc, -⟩
      rw [hurl, hmore, List.append_assoc] at hc
      replace hc := List.append_cancel_left hc
      rw [hscheme] at hmore
      match more with
      | [] =>
        rw [List.append_nil] at hmore
        exact hstem (by simp [← hmore])
      | [x] =>
        rw [List.append_cons front] at hmore
        obtain ⟨rfl, -⟩ := List.append_inj' hmore rfl
        exact hstem List.getLast?_concat
      | x :: y :: more =>
        obtain ⟨-, rfl⟩ := List.cons_eq_cons.mp hc
        exact htail (congrArg some (hslash (by simp)))
    · rintro ⟨c, r, hc, hother⟩
      obtain rfl := List.append_cancel_left (hrest.trans hc)
      exact hother (hslash (by simp))
  · cases more with
    | nil =>
      rw [List.append_nil, hscheme] at hmore
      exact absurd (by simp [hmore]) hstem
    | cons c more =>
      rw [hmore, List.append_assoc] at hurl hbase
      rw [namesServer_iff_of_eq hurl, namesServer_iff_of_eq hbase]

namespace ClientConfig

def schemes : List String := ["http://", "https://"]

theorem mem_schemes_iff {scheme : String} :
    scheme ∈ schemes ↔ scheme = "http://" ∨ scheme = "https://" := by
  simp [schemes]

/-- What is asked of settings. -/
structure Sound (c : ClientConfig) : Prop where
  base_url : ∃ scheme ∈ schemes, scheme.toList <+: c.baseUrl.toList
  query_endpoint : Text.isBlank c.queryEndpoint = false
  threads_endpoint : Text.isBlank c.threadsEndpoint = false
  timeout : 0 < c.timeoutSecs
  deep_timeout : 0 < c.deepResearchTimeoutSecs
  requests : 0 < c.rateLimit.requestsPerPeriod
  period : 0 < c.rateLimit.period.nanos
  attempts : 0 < c.retry.maxAttempts

theorem not_blank_of_scheme {scheme url : String} (hscheme : scheme ∈ schemes)
    (h : scheme.toList <+: url.toList) :
    Text.isBlank url = false := by
  have hfirst : ∃ c ∈ scheme.toList, Text.blank c = false := by
    rcases mem_schemes_iff.mp hscheme with rfl | rfl <;> exact ⟨'h', by decide, by decide⟩
  obtain ⟨c, hc, hfilled⟩ := hfirst
  exact List.all_eq_false.mpr ⟨c, h.subset hc, by simp [hfilled]⟩

theorem validate_eq_ok_iff {c : ClientConfig} : c.validate = .ok () ↔ c.Sound := by
  have hscheme :
      (Text.startsWith c.baseUrl "http://" || Text.startsWith c.baseUrl "https://") = true ↔
        ∃ scheme ∈ schemes, scheme.toList <+: c.baseUrl.toList := by
    simp [schemes, Text.startsWith_iff]
  simp only [validate, bind_eq_ok_iff, require_eq_ok_iff, exists_const, hscheme, Bool.not_eq_true',
    Bool.and_eq_true, bne_iff_ne, Duration.isZero, beq_eq_false_iff_ne, Nat.ne_zero_iff_zero_lt]
  constructor
  · rintro ⟨-, hbase, hquery, hthreads, ⟨htimeout, hdeep⟩, hrequests, hperiod, hattempts⟩
    exact ⟨hbase, hquery, hthreads, htimeout, hdeep, hrequests, hperiod, hattempts⟩
  · intro h
    obtain ⟨scheme, hscheme, hstarts⟩ := h.base_url
    exact ⟨not_blank_of_scheme hscheme hstarts, h.base_url, h.query_endpoint, h.threads_endpoint,
      ⟨h.timeout, h.deep_timeout⟩, h.requests, h.period, h.attempts⟩

theorem exists_front_of_mem_schemes {scheme : String} (h : scheme ∈ schemes) :
    ∃ front, scheme.toList = front ++ ['/', '/'] := by
  rcases mem_schemes_iff.mp h with rfl | rfl
  · exact ⟨"http:".toList, by decide⟩
  · exact ⟨"https:".toList, by decide⟩

/-- The URLs of sound settings are the base URL and the endpoints, each two joined by one slash.
They have the scheme of the base URL with something other than a slash behind it just if that URL
has. -/
theorem urls_of_validate {c : ClientConfig} (h : c.validate = .ok ()) :
    Joins c.baseUrl c.queryEndpoint c.queryUrl ∧
      (∃ url, Joins c.baseUrl c.threadsEndpoint url ∧
        c.threadsUrl = url ++ "?version=" ++ c.locale.apiVersion ++ "&source=default") ∧
      ∃ scheme ∈ schemes, scheme.toList <+: c.baseUrl.toList ∧
        (NamesServer scheme c.queryUrl ↔ NamesServer scheme c.baseUrl) ∧
        (NamesServer scheme c.threadsUrl ↔ NamesServer scheme c.baseUrl) := by
  obtain ⟨scheme, hscheme, hstarts⟩ := (validate_eq_ok_iff.mp h).base_url
  obtain ⟨front, hfront⟩ := exists_front_of_mem_schemes hscheme
  have hquery := joins_joinUrl c.baseUrl c.queryEndpoint
  have hthreads := joins_joinUrl c.baseUrl c.threadsEndpoint
  refine ⟨hquery, ⟨_, hthreads, rfl⟩, scheme, hscheme, hstarts, ?_, ?_⟩
  · obtain ⟨stem, path, m, n, hbase, hstem, -, hpath, hurl⟩ := hquery
    exact namesServer_iff hfront hstarts hbase hstem hurl hpath
  · obtain ⟨stem, path, m, n, hbase, hstem, -, hpath, hurl⟩ := hthreads
    let more : String := "?version=" ++ c.locale.apiVersion ++ "&source=default"
    have hmore : c.threadsUrl.toList = stem ++ '/' :: (path ++ more.toList) := by
      simp [threadsUrl, more, hurl]
    refine namesServer_iff hfront hstarts hbase hstem hmore ?_
    cases path with
    | nil => simp [more]
    | cons c path => simpa using hpath

theorem sound_standard : standard.Sound where
  base_url := ⟨"https://", by decide, by decide⟩
  query_endpoint := by decide
  threads_endpoint := by decide
  timeout := by decide
  deep_timeout := by decide
  requests := by decide
  period := by decide +kernel
  attempts := by decide

theorem validate_of_urls (scheme : String) {baseUrl queryEndpoint threadsEndpoint : String}
    (hscheme : scheme ∈ schemes)
    (hbase : scheme.toList <+: baseUrl.toList) (hquery : Text.isBlank queryEndpoint = false)
    (hthreads : Text.isBlank threadsEndpoint = false) :
    validate { standard with baseUrl, queryEndpoint, threadsEndpoint } = .ok () :=
  validate_eq_ok_iff.mpr
    { sound_standard with
      base_url := ⟨scheme, hscheme, hbase⟩
      query_endpoint := hquery
      threads_endpoint := hthreads }

/-- Slashes on both sides of the seam, of which one is left; and a base URL that is a scheme and one
slash more, of which the URLs keep one slash of the three. -/
theorem urls_of_validate_slashed :
    let crowded : ClientConfig :=
      { standard with
        baseUrl := "https://example.org/v1//", queryEndpoint := "//ask", threadsEndpoint := "/" }
    let bare : ClientConfig := { standard with baseUrl := "http:///" }
    (crowded.validate = .ok () ∧ crowded.queryUrl = "https://example.org/v1/ask" ∧
      crowded.threadsUrl = "https://example.org/v1/?version=2.18&source=default" ∧
      NamesServer "https://" crowded.queryUrl ∧ NamesServer "https://" crowded.threadsUrl) ∧
    (bare.validate = .ok () ∧ bare.queryUrl = "http:/api/pplx.generateStream" ∧
     ¬ NamesServer "http://" bare.queryUrl) := by
  intro crowded bare
  have hcrowded : crowded.validate = .ok () :=
    validate_of_urls "https://" (by decide) (by decide +kernel) (by decide +kernel)
      (by decide +kernel)
  have hbare : bare.validate = .ok () :=
    validate_of_urls "http://" (by decide) (by decide +kernel) (by decide +kernel)
      (by decide +kernel)
  refine ⟨⟨hcrowded, by decide +kernel, by decide +kernel, ?_⟩, hbare, by decide +kernel, ?_⟩
  · obtain ⟨-, -, scheme, hscheme, hstarts, hquery, hthreads⟩ := urls_of_validate hcrowded
    rcases mem_schemes_iff.mp hscheme with rfl | rfl
    · exact absurd hstarts (by decide +kernel)
    · have hnames : NamesServer "https://" crowded.baseUrl :=
        ⟨'e', "xample.org/v1//".toList, by decide +kernel, by decide⟩
      exact ⟨hquery.mpr hnames, hthreads.mpr hnames⟩
  · obtain ⟨-, -, scheme, hscheme, hstarts, hquery, -⟩ := urls_of_validate hbare
    rcases mem_schemes_iff.mp hscheme with rfl | rfl
    · have hslash : bare.baseUrl.toList = "http://".toList ++ ['/'] := by decide +kernel
      rw [hquery, namesServer_iff_of_eq hslash]
      exact not_not.mpr rfl
    · exact absurd hstarts (by decide +kernel)

/-- A scheme without anything behind it passes for a base URL. -/
theorem not_always_served :
    ¬ ∀ c : ClientConfig, c.validate = .ok () →
      Joins c.baseUrl c.queryEndpoint c.queryUrl ∧
        (∃ url, Joins c.baseUrl c.threadsEndpoint url ∧
          c.threadsUrl = url ++ "?version=" ++ c.locale.apiVersion ++ "&source=default") ∧
        ∃ scheme ∈ schemes, scheme.toList <+: c.baseUrl.toList ∧ NamesServer scheme c.queryUrl ∧
          NamesServer scheme c.threadsUrl := by
  intro h
  obtain ⟨-, -, scheme, hscheme, -, ⟨c, rest, hurl, -⟩, -⟩ :=
    h { standard with baseUrl := "http://" } rfl
  have hstarts : scheme.toList <+: "http:/api/pplx.generateStream".toList :=
    ⟨_, hurl.symm.trans (by decide +kernel)⟩
  rcases mem_schemes_iff.mp hscheme with rfl | rfl <;> exact absurd hstarts (by decide)

end ClientConfig
end AnswerStream
