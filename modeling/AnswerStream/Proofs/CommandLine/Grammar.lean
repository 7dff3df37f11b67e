import AnswerStream.CommandLine.Command
import AnswerStream.Proofs.Calendar.Days
import Mathlib.Data.List.Induction

/-!
The grammar of the command line. A listing is a sequence of settings, each a flag and the word
behind it, whatever that word looks like. Every text splits, from the left, into settings that can
be taken and what stops the reading: the end, a flag that asks for help, or an error. The bounds are
compared at the end only. In a question, the flags may stand anywhere.
-/

namespace AnswerStream
open Calendar (Date)

theorem Calendar.Date.proper_of_parse? {s : String} {d : Date} (h : Date.parse? s = some d) :
    d.Proper := by
  rw [Date.parse?, Option.bind_eq_bind, Option.bind_eq_some_iff] at h
  obtain ⟨⟨⟨year, month, day⟩, rest⟩, -, h⟩ := h
  dsimp only at h
  split_ifs at h
  rw [Date.ofParts?] at h
  split_ifs at h with hvalid
  obtain rfl := Option.some.inj h
  exact (Date.valid_iff.mp hvalid).2

/-- If both bounds are given, they are in the order of the calendar. -/
def ThreadQuery.Ordered (q : ThreadQuery) : Prop :=
  ∀ first ∈ q.first, ∀ last ∈ q.last, first.Upto last

namespace Command

def listingNames : List String := ["threads", "--threads"]

def versionNames : List String := ["--version", "-V"]

def helpFlags : List String := ["--help", "-h"]

def deepFlags : List String := ["--deep", "-d"]

/-- The flags that take a date. -/
def boundFlags : List String := ["--from", "--to"]

def searchFlag : String := "--search"

/-- The words of settings, each a flag and its value. -/
def settingWords (settings : List (String × String)) : List String :=
  settings.flatMap fun s => [s.1, s.2]

/-- A search term may be any word, a bound has to be a date. -/
def Taken (s : String × String) : Prop :=
  s.1 = searchFlag ∨ s.1 ∈ boundFlags ∧ (Date.parse? s.2).isSome

instance (s : String × String) : Decidable (Taken s) := inferInstanceAs (Decidable (_ ∨ _))

/-- The value of a flag, the last one if the flag is repeated. -/
def lastValue? (settings : List (String × String)) (flag : String) : Option String :=
  settings.reverse.lookup flag

/-- What settings ask for. -/
def queryOf (settings : List (String × String)) : ThreadQuery where
  first := (lastValue? settings "--from").bind Date.parse?
  last := (lastValue? settings "--to").bind Date.parse?
  searchTerm := lastValue? settings searchFlag

/-- What cannot stand where a flag is due, and the reason that is given. -/
inductive Refused : List String → String → Prop
  | unvalued {flag : String} (hflag : takesValue flag = true) :
      Refused [flag] s!"{flag} needs a value"
  | undated {flag value : String} {rest : List String} (hflag : flag ∈ boundFlags)
      (hvalue : Date.parse? value = none) :
      Refused (flag :: value :: rest) s!"invalid date for {flag}: {value}"
  | unknown {word : String} {rest : List String} (hflag : takesValue word = false)
      (hhelp : word ∉ helpFlags) :
      Refused (word :: rest) s!"unknown argument: {word}"

theorem isHelp_iff {word : String} : isHelp word = true ↔ word ∈ helpFlags := by
  simp [isHelp, helpFlags]

theorem isDeep_iff {word : String} : isDeep word = true ↔ word ∈ deepFlags := by
  simp [isDeep, deepFlags]

theorem takesValue_iff {word : String} :
    takesValue word = true ↔ word = searchFlag ∨ word ∈ boundFlags := by
  simp [takesValue, searchFlag, boundFlags]
  tauto

theorem takesValue_of_mem_helpFlags {word : String} (h : word ∈ helpFlags) :
    takesValue word = false := by
  simp only [helpFlags, List.mem_cons, List.not_mem_nil, or_false] at h
  rcases h with rfl | rfl <;> decide

section
variable {settings : List (String × String)} {words rest : List String} {word : String}

theorem lastValue?_concat (flag value other : String) :
    lastValue? (settings ++ [(flag, value)]) other =
      if other = flag then some value else lastValue? settings other := by
  rw [lastValue?, List.reverse_concat, List.lookup_cons]
  by_cases hother : other = flag
  · simp [hother]
  · have hbeq : (other == flag) = false := beq_false_of_ne hother
    simp [hbeq, hother, lastValue?]

/-- One setting more, and what it asks for in place of what the same flag has asked for before. -/
theorem setFlag_queryOf {s : String × String} (h : Taken s) :
    setFlag (queryOf settings) s.1 s.2 = .ok (queryOf (settings ++ [s])) := by
  obtain ⟨flag, value⟩ := s
  simp only [queryOf, lastValue?_concat]
  rcases h with hflag | ⟨hflag, hvalue⟩
  · obtain rfl : flag = searchFlag := hflag
    simp [setFlag, searchFlag]
  · obtain ⟨date, hdate⟩ := Option.isSome_iff_exists.mp hvalue
    simp only at hdate
    simp only [boundFlags, List.mem_cons, List.not_mem_nil, or_false] at hflag
    rcases hflag with rfl | rfl <;> simp [setFlag, searchFlag, hdate]

theorem Taken.takesValue {s : String × String} (h : Taken s) : takesValue s.1 = true :=
  takesValue_iff.mpr (h.imp id And.left)

theorem parseThreads_settings (h : ∀ s ∈ settings, Taken s) (rest : List String) :
    parseThreads ⟨none, none, none⟩ (settingWords settings ++ rest) =
      parseThreads (queryOf settings) rest := by
  induction settings using List.reverseRecOn generalizing rest with
  | nil => rfl
  | append_singleton settings s ih =>
    obtain ⟨hsettings, hs⟩ := List.forall_mem_append.mp h
    replace hs := hs s List.mem_cons_self
    have hwords : settingWords (settings ++ [s]) ++ rest =
        settingWords settings ++ (s.1 :: s.2 :: rest) := by
      simp [settingWords]
    rw [hwords, ih hsettings, parseThreads, if_pos hs.takesValue, setFlag_queryOf hs]

theorem parseThreads_help (h : word ∈ helpFlags) (q : ThreadQuery) (rest : List String) :
    parseThreads q (word :: rest) = .help := by
  have hflag := takesValue_of_mem_helpFlags h
  have hhelp := isHelp_iff.mpr h
  cases rest <;> simp [parseThreads, hflag, hhelp]

theorem parseThreads_refused {reason : String} (h : Refused words reason) (q : ThreadQuery) :
    parseThreads q words = .invalid reason := by
  cases h with
  | unvalued hflag => rw [parseThreads, if_pos hflag]
  | @undated flag value rest hflag hvalue =>
    have hsearch : flag ≠ "--search" := by
      rintro rfl
      exact absurd hflag (by decide)
    rw [parseThreads, if_pos (takesValue_iff.mpr (.inr hflag)), setFlag, if_neg hsearch, hvalue]
  | @unknown word rest hflag hhelp =>
    have hhelp : isHelp word = false := Bool.eq_false_iff.mpr (isHelp_iff.not.mpr hhelp)
    cases rest <;> simp [parseThreads, hflag, hhelp]

theorem checkRange_queryOf (settings : List (String × String)) :
    checkRange (queryOf settings) = .threads (queryOf settings) ∧ (queryOf settings).Ordered ∨
      checkRange (queryOf settings) = .invalid "--from is after --to" ∧
        ¬ (queryOf settings).Ordered := by
  have hproper {flag : String} {date : Date}
      (h : (lastValue? settings flag).bind Date.parse? = some date) : date.Proper := by
    obtain ⟨value, -, hvalue⟩ := Option.bind_eq_some_iff.mp h
    exact Date.proper_of_parse? hvalue
  rw [checkRange]
  split
  · next first last hfirst hlast =>
    have hordered : (queryOf settings).Ordered ↔ first.notAfter last = true := by
      rw [Date.notAfter, decide_eq_true_iff, (hproper hfirst).toDays_le_iff (hproper hlast)]
      simp [ThreadQuery.Ordered, hfirst, hlast]
    rw [hordered]
    split_ifs with hrange
    · exact .inl ⟨rfl, hrange⟩
    · exact .inr ⟨rfl, hrange⟩
  · next hbounds =>
    exact .inl ⟨rfl, fun first hfirst last hlast => absurd hlast (hbounds first last hfirst)⟩

/-- From the left, words are settings as far as they can be taken; then they end, or ask for help,
or are refused. -/
theorem exists_settings :
    ∀ words : List String, ∃ settings rest, words = settingWords settings ++ rest ∧
    (∀ s ∈ settings, Taken s) ∧
    (rest = [] ∨ (∃ flag ∈ helpFlags, ∃ more, rest = flag :: more) ∨ ∃ reason, Refused rest reason)
  | [] => ⟨[], [], rfl, List.forall_mem_nil _, .inl rfl⟩
  | [word] => by
    refine ⟨[], [word], rfl, List.forall_mem_nil _, .inr ?_⟩
    by_cases hhelp : word ∈ helpFlags
    · exact .inl ⟨word, hhelp, [], rfl⟩
    · cases hflag : takesValue word with
      | true => exact .inr ⟨_, .unvalued hflag⟩
      | false => exact .inr ⟨_, .unknown hflag hhelp⟩
  | flag :: value :: words => by
    by_cases htaken : Taken (flag, value)
    · obtain ⟨settings, rest, hwords, hsettings, hrest⟩ := exists_settings words
      exact ⟨(flag, value) :: settings, rest, by rw [hwords]; rfl,
        List.forall_mem_cons.mpr ⟨htaken, hsettings⟩, hrest⟩
    · refine ⟨[], flag :: value :: words, rfl, List.forall_mem_nil _, .inr ?_⟩
      by_cases hhelp : flag ∈ helpFlags
      · exact .inl ⟨flag, hhelp, _, rfl⟩
      · by_cases hflag : takesValue flag = true
        · obtain ⟨hsearch, hbound⟩ := not_or.mp htaken
          have hmem := (takesValue_iff.mp hflag).resolve_left hsearch
          have hvalue : ¬ (Date.parse? value).isSome := fun hdate => hbound ⟨hmem, hdate⟩
          exact .inr ⟨_, .undated hmem (Option.not_isSome_iff_eq_none.mp hvalue)⟩
        · exact .inr ⟨_, .unknown (Bool.eq_false_iff.mpr hflag) hhelp⟩

theorem parseThreads_cases (words : List String) :
    (∃ settings, words = settingWords settings ∧ (∀ s ∈ settings, Taken s) ∧
     (queryOf settings).Ordered ∧
      parseThreads ⟨none, none, none⟩ words = .threads (queryOf settings)) ∨
    (∃ settings, ∃ flag ∈ helpFlags, ∃ more, words = settingWords settings ++ flag :: more ∧
     (∀ s ∈ settings, Taken s) ∧
      parseThreads ⟨none, none, none⟩ words = .help) ∨
    ∃ reason, parseThreads ⟨none, none, none⟩ words = .invalid reason := by
  obtain ⟨settings, rest, rfl, hsettings, hrest⟩ := exists_settings words
  rw [parseThreads_settings hsettings]
  rcases hrest with rfl | ⟨flag, hflag, more, rfl⟩ | ⟨reason, hreason⟩
  · rw [List.append_nil, parseThreads]
    rcases checkRange_queryOf settings with ⟨hrange, hordered⟩ | ⟨hrange, -⟩
    · exact .inl ⟨settings, rfl, hsettings, hordered, hrange⟩
    · exact .inr (.inr ⟨_, hrange⟩)
  · exact .inr (.inl ⟨settings, flag, hflag, more, rfl, hsettings, parseThreads_help hflag _ _⟩)
  · exact .inr (.inr ⟨reason, parseThreads_refused hreason _⟩)

theorem parseThreads_eq_threads_iff {q : ThreadQuery} :
    parseThreads ⟨none, none, none⟩ words = .threads q ↔
      ∃ settings, words = settingWords settings ∧ (∀ s ∈ settings, Taken s) ∧ q = queryOf settings ∧
        q.Ordered := by
  constructor
  · intro hq
    obtain ⟨settings, hwords, hsettings, hordered, h⟩ | ⟨_, _, _, _, _, _, h⟩ | ⟨_, h⟩ :=
      parseThreads_cases words
    · obtain rfl := Command.threads.inj (hq.symm.trans h)
      exact ⟨settings, hwords, hsettings, rfl, hordered⟩
    · cases hq.symm.trans h
    · cases hq.symm.trans h
  · rintro ⟨settings, rfl, hsettings, rfl, hordered⟩
    have h := parseThreads_settings hsettings []
    rw [List.append_nil] at h
    rw [h, parseThreads]
    exact ((checkRange_queryOf settings).resolve_right fun hafter => hafter.2 hordered).1

theorem parseThreads_eq_help_iff :
    parseThreads ⟨none, none, none⟩ words = .help ↔ ∃ settings, ∃ flag ∈ helpFlags, ∃ more,
      words = settingWords settings ++ flag :: more ∧ ∀ s ∈ settings, Taken s := by
  constructor
  · intro hhelp
    obtain ⟨_, _, _, _, h⟩ | ⟨settings, flag, hflag, more, hwords, hsettings, -⟩ | ⟨_, h⟩ :=
      parseThreads_cases words
    · cases hhelp.symm.trans h
    · exact ⟨settings, flag, hflag, more, hwords, hsettings⟩
    · cases hhelp.symm.trans h
  · rintro ⟨settings, flag, hflag, more, rfl, hsettings⟩
    rw [parseThreads_settings hsettings, parseThreads_help hflag]

/-- The words of a question that are no flags, with a space between each two. -/
def questionText (words : List String) : String :=
  String.intercalate " " (words.filter (· ∉ deepFlags))

theorem parseQuestion_of_help (h : ∃ w ∈ words, w ∈ helpFlags) : parseQuestion words = .help := by
  have hany : words.any isHelp = true := by simpa [isHelp_iff] using h
  rw [parseQuestion, if_pos hany]

theorem parseQuestion_of_no_help (h : ¬ ∃ w ∈ words, w ∈ helpFlags) :
    parseQuestion words =
      if Text.isBlank (questionText words) then .invalid "missing question"
      else .query (questionText words) (words.any isDeep) := by
  have hany : ¬ words.any isHelp = true := by simpa [isHelp_iff] using h
  have hfilter : words.filter (fun w => !isDeep w) = words.filter (· ∉ deepFlags) := by
    refine List.filter_congr fun w _ => ?_
    rw [Bool.eq_iff_iff, Bool.not_eq_true', ← Bool.not_eq_true, isDeep_iff, decide_eq_true_iff]
  rw [parseQuestion, if_neg hany, hfilter, questionText]

theorem parseQuestion_eq_help_iff : parseQuestion words = .help ↔ ∃ w ∈ words, w ∈ helpFlags := by
  refine ⟨fun hhelp => ?_, parseQuestion_of_help⟩
  by_contra hno
  rw [parseQuestion_of_no_help hno] at hhelp
  split_ifs at hhelp

theorem parseQuestion_eq_query_iff {text : String} {deep : Bool} :
    parseQuestion words = .query text deep ↔ (∀ w ∈ words, w ∉ helpFlags) ∧
      text = questionText words ∧
      (deep = true ↔ ∃ w ∈ words, w ∈ deepFlags) ∧ Text.isBlank text = false := by
  have hdeep : words.any isDeep = true ↔ ∃ w ∈ words, w ∈ deepFlags := by simp [isDeep_iff]
  by_cases hhelp : ∃ w ∈ words, w ∈ helpFlags
  · rw [parseQuestion_of_help hhelp]
    refine iff_of_false nofun fun hno => ?_
    obtain ⟨w, hw, hflag⟩ := hhelp
    exact hno.1 w hw hflag
  · rw [parseQuestion_of_no_help hhelp, ← hdeep, ← Bool.eq_iff_iff]
    have hwords : ∀ w ∈ words, w ∉ helpFlags := fun w hw hflag => hhelp ⟨w, hw, hflag⟩
    rw [and_iff_right hwords]
    split_ifs with hblank
    · refine iff_of_false nofun ?_
      rintro ⟨rfl, -, hfilled⟩
      exact absurd hblank (Bool.eq_false_iff.mp hfilled)
    · rw [Bool.not_eq_true] at hblank
      constructor
      · intro h
        cases h
        exact ⟨rfl, rfl, hblank⟩
      · rintro ⟨rfl, rfl, -⟩
        rfl

theorem parse_listing (h : word ∈ listingNames) (rest : List String) :
    parse (word :: rest) = parseThreads ⟨none, none, none⟩ rest := by
  simp only [listingNames, List.mem_cons, List.not_mem_nil, or_false] at h
  rcases h with rfl | rfl <;> rfl

theorem parse_question (hlisting : word ∉ listingNames) (hversion : word ∉ versionNames)
    (rest : List String) :
    parse (word :: rest) = parseQuestion (word :: rest) := by
  simp only [listingNames, versionNames, List.mem_cons, List.not_mem_nil, or_false]
    at hlisting hversion
  rw [parse, if_neg hversion, if_neg hlisting]
  split_ifs with hhelp
  · exact (parseQuestion_of_help ⟨word, List.mem_cons_self, isHelp_iff.mp hhelp⟩).symm
  · rfl

end

/-- A listing is asked for just by settings that can be taken, with the bounds in order, and help
just by a flag for it that follows such settings. A question asks for help just if there is a flag
for it anywhere, and otherwise it asks what its other words say. Everything else is refused. -/
theorem parse_by_grammar (word : String) (rest : List String) :
    (word ∈ listingNames →
      (∀ q, parse (word :: rest) = .threads q ↔ ∃ settings, rest = settingWords settings ∧
       (∀ s ∈ settings, Taken s) ∧
        q = queryOf settings ∧ q.Ordered) ∧
      (parse (word :: rest) = .help ↔ ∃ settings, ∃ flag ∈ helpFlags, ∃ more,
        rest = settingWords settings ++ flag :: more ∧ ∀ s ∈ settings, Taken s) ∧
      ((∃ reason, parse (word :: rest) = .invalid reason) ↔
        (∀ q, parse (word :: rest) ≠ .threads q) ∧ parse (word :: rest) ≠ .help)) ∧
    (word ∉ listingNames → word ∉ versionNames →
      (parse (word :: rest) = .help ↔ ∃ w ∈ word :: rest, w ∈ helpFlags) ∧
      (∀ text deep, parse (word :: rest) = .query text deep ↔ (∀ w ∈ word :: rest, w ∉ helpFlags) ∧
        text = questionText (word :: rest) ∧ (deep = true ↔ ∃ w ∈ word :: rest, w ∈ deepFlags) ∧
        Text.isBlank text = false) ∧
      ((∃ reason, parse (word :: rest) = .invalid reason) ↔
        (∀ text deep, parse (word :: rest) ≠ .query text deep) ∧
        parse (word :: rest) ≠ .help)) := by
  constructor
  · intro hlisting
    rw [parse_listing hlisting]
    refine ⟨fun q => parseThreads_eq_threads_iff, parseThreads_eq_help_iff, ?_⟩
    obtain ⟨_, _, _, _, h⟩ | ⟨_, _, _, _, _, _, h⟩ | ⟨_, h⟩ := parseThreads_cases rest <;> simp [h]
  · intro hlisting hversion
    rw [parse_question hlisting hversion]
    refine ⟨parseQuestion_eq_help_iff, fun text deep => parseQuestion_eq_query_iff, ?_⟩
    by_cases hhelp : ∃ w ∈ word :: rest, w ∈ helpFlags
    · simp [parseQuestion_of_help hhelp]
    · rw [parseQuestion_of_no_help hhelp]
      split_ifs <;> simp

/-- A search term that looks like a flag and a bound that is given twice; help behind bounds that
are out of order; a flag for help in the place of a date, where it is none; and a question with
flags among its words. -/
theorem parse_by_grammar_misleading :
    let listing : List (String × String) :=
      [("--from", "2024-03-01"), ("--search", "--help"), ("--to", "2024-02-29"),
        ("--from", "2024-02-28")]
    let disordered : List (String × String) := [("--from", "2024-03-01"), ("--to", "2024-02-29")]
    parse ("threads" :: settingWords listing) =
        .threads ⟨some ⟨2024, 2, 28⟩, some ⟨2024, 2, 29⟩, some "--help"⟩ ∧
      parse ("--threads" :: (settingWords disordered ++ ["-h", "--to"])) = .help ∧
      ((∀ q, parse ["threads", "--from", "--help"] ≠ .threads q) ∧
       parse ["threads", "--from", "--help"] ≠ .help) ∧
      parse ["what", "--deep", "is", "-d", " this"] = .query "what is  this" true := by
  intro listing disordered
  obtain ⟨hthreads, -, -⟩ := (parse_by_grammar "threads" (settingWords listing)).1 (by decide)
  obtain ⟨-, hhelp, -⟩ :=
    (parse_by_grammar "--threads" (settingWords disordered ++ ["-h", "--to"])).1 (by decide)
  obtain ⟨-, -, hinvalid⟩ := (parse_by_grammar "threads" ["--from", "--help"]).1 (by decide)
  obtain ⟨-, hquery, -⟩ :=
    (parse_by_grammar "what" ["--deep", "is", "-d", " this"]).2 (by decide) (by decide)
  refine ⟨?_, ?_, ?_, ?_⟩
  · refine (hthreads _).mpr ⟨listing, rfl, by decide +kernel, by decide +kernel, ?_⟩
    rintro _ ⟨⟩ _ ⟨⟩
    decide
  · exact hhelp.mpr ⟨disordered, "-h", by decide, ["--to"], rfl, by decide +kernel⟩
  · exact hinvalid.mp ⟨"invalid date for --from: --help", by decide +kernel⟩
  · exact (hquery _ _).mpr (by decide +kernel)

end Command
end AnswerStream
