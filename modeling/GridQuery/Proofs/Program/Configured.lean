import GridQuery.Proofs.Number.Integer
import GridQuery.Proofs.Traversal
import GridQuery.Settings

/-!
# What an environment configures

A group of settings demands something of each variable that it reads: a number is written in
digits and lies within its bounds, a flag is one of eight words. A variable that is absent or blank
is unset and meets every demand, and the setting has its default. The settings are refused for the
first demand that is not met, and in no other case (`Environment.Exact`).

Main result: `Environment.settings_exact`.
-/

namespace GridQuery

/-- One or more digits, perhaps behind a plus sign. -/
inductive NumberText : List Char → Nat → Prop
  | bare {ds : List Char} (h : Digits ds) : NumberText ds (Nat.ofDigitChars 10 ds 0)
  | plus {ds : List Char} (h : Digits ds) : NumberText ('+' :: ds) (Nat.ofDigitChars 10 ds 0)

theorem numberText_iff {cs : List Char} {n : Nat} :
    NumberText cs n ↔ IntegerLiteral cs n ∧ cs.head? ≠ some '-' := by
  constructor
  · intro h
    cases h with
    | bare h =>
      refine ⟨.bare h, fun hhead => ?_⟩
      have hdigit := h.2 '-' (List.mem_of_head? hhead)
      cases hdigit
    | plus h => exact ⟨.plus h, by simp⟩
  · rintro ⟨h, hsign⟩
    generalize hm : (n : Int) = m at h
    cases h with
    | bare h => exact Int.natCast_inj.1 hm ▸ .bare h
    | plus h => exact Int.natCast_inj.1 hm ▸ .plus h
    | minus h => exact absurd rfl hsign

theorem NumberText.unique {cs : List Char} {n m : Nat} (hn : NumberText cs n)
    (hm : NumberText cs m) : n = m :=
  Int.natCast_inj.1 ((numberText_iff.1 hn).1.unique (numberText_iff.1 hm).1)

theorem IntegerRange.read_ok_iff {most : Nat} {s : String} {m : Int} :
    IntegerRange.read ⟨0, most⟩ s = .ok m ↔
      ∃ n : Nat, NumberText s.toList n ∧ n ≤ most ∧ m = n := by
  have hzero : IntegerRange.contains ⟨0, most⟩ 0 = true :=
    contains_iff.2 ⟨Int.le_refl 0, Int.natCast_nonneg most⟩
  rw [read, readChars_ok_iff hzero, contains_iff]
  constructor
  · rintro ⟨htext, ⟨hmin, hmax⟩, hsign⟩
    obtain ⟨n, rfl⟩ := Int.eq_ofNat_of_zero_le hmin
    exact ⟨n, numberText_iff.2 ⟨htext, fun hhead => absurd (hsign hhead) (Int.lt_irrefl 0)⟩,
      Int.ofNat_le.1 hmax, rfl⟩
  · rintro ⟨n, htext, hmost, rfl⟩
    obtain ⟨hliteral, hsign⟩ := numberText_iff.1 htext
    exact ⟨hliteral, ⟨Int.natCast_nonneg _, Int.ofNat_le.2 hmost⟩, fun hhead => absurd hhead hsign⟩

namespace Environment

variable {env : Environment} {name v : String} {least most default n : Nat}

/-! ## Settings that are given -/

/-- The variable is absent or blank. -/
def Unset (env : Environment) (name : String) : Prop := ∀ v ∈ env name, Text.Blanks v.toList

/-- The variable has the text, and it is not blank. -/
def Given (env : Environment) (name v : String) : Prop :=
  env name = some v ∧ ¬ Text.Blanks v.toList

theorem unset_or_given (env : Environment) (name : String) :
    env.Unset name ∨ ∃ v, env.Given name v := by
  cases hv : env name with
  | none =>
    refine .inl fun v h => ?_
    rw [hv] at h
    cases h
  | some v =>
    by_cases hblank : Text.Blanks v.toList
    · refine .inl fun w h => ?_
      rw [hv] at h
      cases h
      exact hblank
    · exact .inr ⟨v, hv, hblank⟩

theorem Given.not_unset (h : env.Given name v) : ¬ env.Unset name := fun hunset =>
  h.2 (hunset v h.1)

theorem Given.unique {w : String} (hv : env.Given name v) (hw : env.Given name w) : v = w :=
  Option.some.inj (hv.1.symm.trans hw.1)

theorem asciiLower_trim_eq_empty_iff :
    Text.asciiLower (Text.trim v) = "" ↔ Text.Blanks v.toList := by
  rw [← Text.trimChars_eq_nil_iff, ← String.toList_inj, Text.asciiLower, Text.trim,
    String.toList_ofList, String.toList_ofList, String.toList_empty, List.map_eq_nil_iff]

/-! ## Demands -/

/-- What is demanded of a variable. -/
inductive Demand where
  /-- A number within bounds. -/
  | number (name : String) (least most : Nat)
  /-- One of the words of `flagWords`. -/
  | flag (name : String)

/-- The words for a truth value, in lower case. -/
def flagWords : List (String × Bool) :=
  [("true", true), ("1", true), ("yes", true), ("on", true),
    ("false", false), ("0", false), ("no", false), ("off", false)]

/-- The variable is as demanded, if it is set. -/
def Met (env : Environment) : Demand → Prop
  | .number name least most => env.Unset name ∨
      ∃ v n, env.Given name v ∧ NumberText (Text.trimChars v.toList) n ∧ least ≤ n ∧ n ≤ most
  | .flag name => env.Unset name ∨
      ∃ v b, env.Given name v ∧ flagWords.lookup (Text.asciiLower (Text.trim v)) = some b

/-- What is said of a variable that is not as demanded. -/
inductive Blamed (env : Environment) : Demand → SettingFault → Prop
  | unreadable {name v : String} {least most : Nat} {e : IntegerFault} (hv : env.Given name v)
      (hno : ∀ n ≤ most, ¬ NumberText (Text.trimChars v.toList) n)
      (hread : IntegerRange.read ⟨0, most⟩ (Text.trim v) = .error e) :
      Blamed env (.number name least most) ⟨name, v, .integer e⟩
  | zero {name v : String} {most : Nat} (hv : env.Given name v)
      (hzero : NumberText (Text.trimChars v.toList) 0) :
      Blamed env (.number name 1 most) ⟨name, "0", .belowOne⟩
  | notFlag {name v : String} (hv : env.Given name v)
      (hno : flagWords.lookup (Text.asciiLower (Text.trim v)) = none) :
      Blamed env (.flag name) ⟨name, v, .notFlag⟩

theorem Blamed.not_met {d : Demand} {f : SettingFault} (h : env.Blamed d f) : ¬ env.Met d := by
  cases h with
  | unreadable hv hno =>
    rintro (hunset | ⟨w, n, hw, hn, -, hmost⟩)
    · exact hv.not_unset hunset
    · obtain rfl := hv.unique hw
      exact hno n hmost hn
  | zero hv hzero =>
    rintro (hunset | ⟨w, n, hw, hn, hleast, -⟩)
    · exact hv.not_unset hunset
    · obtain rfl := hv.unique hw
      obtain rfl := hzero.unique hn
      omega
  | notFlag hv hno =>
    rintro (hunset | ⟨w, b, hw, hb⟩)
    · exact hv.not_unset hunset
    · obtain rfl := hv.unique hw
      rw [hno] at hb
      cases hb

/-! ## Reading one setting -/

/-- The number of a setting. -/
inductive HasNumber (env : Environment) (name : String) (most default : Nat) : Nat → Prop
  | unset (h : env.Unset name) : HasNumber env name most default default
  | given {v : String} {n : Nat} (hv : env.Given name v)
      (hn : NumberText (Text.trimChars v.toList) n) (hmost : n ≤ most) :
      HasNumber env name most default n

/-- The truth value of a setting. -/
inductive HasFlag (env : Environment) (name : String) (default : Bool) : Bool → Prop
  | unset (h : env.Unset name) : HasFlag env name default default
  | given {v : String} {b : Bool} (hv : env.Given name v)
      (hb : flagWords.lookup (Text.asciiLower (Text.trim v)) = some b) : HasFlag env name default b

theorem HasNumber.met (h : env.HasNumber name most default n) (hleast : least ≤ n) :
    env.Met (.number name least most) := by
  cases h with
  | unset h => exact .inl h
  | given hv hn hmost => exact .inr ⟨_, n, hv, hn, hleast, hmost⟩

theorem HasNumber.le_most (h : env.HasNumber name most default n) (hdefault : default ≤ most) :
    n ≤ most := by
  cases h with
  | unset => exact hdefault
  | given hv hn hmost => exact hmost

/-- A zero was asked for, if it is not the default. -/
theorem HasNumber.blamed (h : env.HasNumber name most default 0) (hdefault : default ≠ 0) :
    env.Blamed (.number name 1 most) ⟨name, "0", .belowOne⟩ := by
  generalize hzero : 0 = n at h
  cases h with
  | unset h => exact absurd hzero.symm hdefault
  | given hv hn hmost => exact .zero hv (hzero ▸ hn)

theorem HasFlag.met {default b : Bool} (h : env.HasFlag name default b) : env.Met (.flag name) := by
  cases h with
  | unset h => exact .inl h
  | given hv hb => exact .inr ⟨_, b, hv, hb⟩

theorem number_cases (r : IntegerRange) (most : Nat) (hr : r = ⟨0, most⟩) (env : Environment)
    (name : String) (least default : Nat) :
    (∃ n, env.number name r default = .ok n ∧ env.HasNumber name most default n) ∨
      ∃ f, env.number name r default = .error f ∧ env.Blamed (.number name least most) f := by
  subst hr
  -- Nothing to read, a number within the bounds, or the reader's own complaint.
  rcases env.unset_or_given name with hunset | ⟨v, hv⟩
  · refine .inl ⟨default, ?_, .unset hunset⟩
    rw [number]
    cases hname : env name with
    | none => rfl
    | some v => exact if_pos (Text.allBlank_eq_true_iff.2 (hunset v hname))
  · have hblank : ¬ Text.allBlank v = true := mt Text.allBlank_eq_true_iff.1 hv.2
    have htrim : (Text.trim v).toList = Text.trimChars v.toList := String.toList_ofList
    cases hread : IntegerRange.read ⟨0, most⟩ (Text.trim v) with
    | ok m =>
      obtain ⟨n, hn, hmost, rfl⟩ := IntegerRange.read_ok_iff.1 hread
      refine .inl ⟨n, ?_, .given hv (htrim ▸ hn) hmost⟩
      simp only [number, hv.1, if_neg hblank, hread, Int.toNat_natCast]
    | error e =>
      refine .inr ⟨⟨name, v, .integer e⟩, ?_, .unreadable hv (fun n hmost hn => ?_) hread⟩
      · simp only [number, hv.1, if_neg hblank, hread]
      · have hok := IntegerRange.read_ok_iff.2 ⟨n, htrim.symm ▸ hn, hmost, rfl⟩
        rw [hread] at hok
        cases hok

theorem flag_of_given (hv : env.Given name v) (default : Bool) :
    env.flag name default =
      match flagWords.lookup (Text.asciiLower (Text.trim v)) with
      | some b => .ok b
      | none => .error ⟨name, v, .notFlag⟩ := by
  have hne := mt asciiLower_trim_eq_empty_iff.1 hv.2
  simp only [flag, hv.1, flagWords, List.lookup_cons, List.lookup_nil]
  generalize Text.asciiLower (Text.trim v) = word at hne ⊢
  split
  case h_1 => exact absurd rfl hne
  case h_10 htrue hone hyes hon hfalse hzero hno hoff =>
    simp only [beq_eq_false_iff_ne.2 htrue, beq_eq_false_iff_ne.2 hone, beq_eq_false_iff_ne.2 hyes,
      beq_eq_false_iff_ne.2 hon, beq_eq_false_iff_ne.2 hfalse, beq_eq_false_iff_ne.2 hzero,
      beq_eq_false_iff_ne.2 hno, beq_eq_false_iff_ne.2 hoff]
  all_goals rfl

theorem flag_cases (env : Environment) (name : String) (default : Bool) :
    (∃ b, env.flag name default = .ok b ∧ env.HasFlag name default b) ∨
      ∃ f, env.flag name default = .error f ∧ env.Blamed (.flag name) f := by
  rcases env.unset_or_given name with hunset | ⟨v, hv⟩
  · refine .inl ⟨default, ?_, .unset hunset⟩
    rw [flag]
    cases hname : env name with
    | none => rfl
    | some v => simp only [asciiLower_trim_eq_empty_iff.2 (hunset v hname)]
  · cases hword : flagWords.lookup (Text.asciiLower (Text.trim v)) with
    | some b => exact .inl ⟨b, by rw [flag_of_given hv, hword], .given hv hword⟩
    | none => exact .inr ⟨_, by rw [flag_of_given hv, hword], .notFlag hv hword⟩

/-! ## Reading all settings -/

/-- A reading that fails exactly when a demand is not met, for the first such demand, and that gives
what is configured in all other cases. -/
structure Exact {α : Type} (env : Environment) (demands : List Demand) (Configured : α → Prop)
    (result : Except SettingFault α) : Prop where
  fails_iff : (∃ f, result = .error f) ↔ ∃ d ∈ demands, ¬ env.Met d
  first : ∀ f, result = .error f → FirstFault env.Met env.Blamed demands f
  configured : ∀ s, result = .ok s → Configured s

section Exact

variable {α : Type} {demands : List Demand} {Configured : α → Prop}

theorem Exact.of_ok {s : α} (hmet : ∀ d ∈ demands, env.Met d) (hs : Configured s) :
    env.Exact demands Configured (.ok s) := by
  refine ⟨⟨nofun, ?_⟩, nofun, ?_⟩
  · rintro ⟨d, hd, hnot⟩
    exact absurd (hmet d hd) hnot
  · rintro _ ⟨⟩
    exact hs

theorem Exact.of_error {f : SettingFault} (hf : FirstFault env.Met env.Blamed demands f) :
    env.Exact demands Configured (.error f) := by
  refine ⟨⟨fun _ => ?_, fun _ => ⟨f, rfl⟩⟩, ?_, nofun⟩
  · obtain ⟨before, d, after, rfl, -, hd⟩ := hf
    exact ⟨d, List.mem_append_right _ List.mem_cons_self, hd.not_met⟩
  · rintro _ ⟨⟩
    exact hf

end Exact

end Environment

namespace DatabaseSettings

open Environment

/-- What is demanded to reach the database, in reading order. -/
def demands : List Demand :=
  [.number "DB_PORT" 0 0xffff, .number "DB_MAX_CONNECTIONS" 0 0xffffffff]

/-- The settings are those of the environment. -/
structure Configured (env : Environment) (s : DatabaseSettings) : Prop where
  dialect : s.dialect = .postgres ↔ ∃ v, env "DB_DIALECT" = some v ∧
    Text.asciiLower (Text.trim v) ∈ ["postgres", "postgresql", "pg"]
  port : env.HasNumber "DB_PORT" 0xffff s.dialect.defaultPort s.port
  connections : ∃ n, env.HasNumber "DB_MAX_CONNECTIONS" 0xffffffff 5 n ∧ s.maxConnections = max n 1
  one_le_connections : 1 ≤ s.maxConnections

theorem dialect_eq_postgres_iff (env : Environment) :
    (dialect? env).getD .mysql = .postgres ↔ ∃ v, env "DB_DIALECT" = some v ∧
      Text.asciiLower (Text.trim v) ∈ ["postgres", "postgresql", "pg"] := by
  rw [dialect?]
  cases env "DB_DIALECT" with
  | none => simp
  | some v =>
    simp only [Option.bind_some, Dialect.ofName?, Option.some.injEq, exists_eq_left']
    generalize Text.asciiLower (Text.trim v) = word
    split
    all_goals simp_all

theorem exact_ofEnvironment (env : Environment) :
    env.Exact demands (Configured env) (ofEnvironment env) := by
  rw [ofEnvironment]
  have hdialect := dialect_eq_postgres_iff env
  generalize (dialect? env).getD .mysql = dialect at hdialect
  rcases number_cases .unsigned16 0xffff rfl env "DB_PORT" 0 dialect.defaultPort
    with ⟨port, hport, hports⟩ | ⟨f, hport, hblamed⟩
  · simp only [hport, bind, Except.bind]
    have hfirst := hports.met (Nat.zero_le port)
    rcases number_cases .unsigned32 0xffffffff rfl env "DB_MAX_CONNECTIONS" 0 5
      with ⟨count, hcount, hcounts⟩ | ⟨f, hcount, hblamed⟩
    · simp only [hcount]
      have hsecond := hcounts.met (Nat.zero_le count)
      refine Exact.of_ok ?_ ⟨hdialect, hports, ⟨count, hcounts, rfl⟩, Nat.le_max_right _ _⟩
      simp only [demands, List.forall_mem_cons]
      exact ⟨hfirst, hsecond, nofun⟩
    · simp only [hcount]
      exact Exact.of_error (.later hfirst (.here hblamed))
  · simp only [hport, bind, Except.bind]
    exact Exact.of_error (.here hblamed)

end DatabaseSettings

namespace ServiceSettings

open Environment

/-- What is demanded to serve requests, in reading order. -/
def demands : List Demand :=
  [.number "QUERY_TIMEOUT_MS" 0 0xffffffffffffffff, .number "MAX_PAGE_SIZE" 1 0xffffffffffffffff,
    .flag "SCHEMA_CACHE"]

/-- The settings are those of the environment. -/
structure Configured (env : Environment) (s : ServiceSettings) : Prop where
  timeout : ∃ n, env.HasNumber "QUERY_TIMEOUT_MS" 0xffffffffffffffff 30000 n ∧
    s.timeout = if n = 0 then none else some n
  pageSize : env.HasNumber "MAX_PAGE_SIZE" 0xffffffffffffffff 1000 s.maxPageSize
  one_le_pageSize : 1 ≤ s.maxPageSize
  schemaCache : env.HasFlag "SCHEMA_CACHE" true s.schemaCache

theorem exact_ofEnvironment (env : Environment) :
    env.Exact demands (Configured env) (ofEnvironment env) := by
  rw [ofEnvironment]
  rcases number_cases .unsigned64 0xffffffffffffffff rfl env "QUERY_TIMEOUT_MS" 0 defaultTimeout
    with ⟨timeout, htimeout, htimes⟩ | ⟨f, htimeout, hblamed⟩
  · simp only [htimeout, bind, Except.bind]
    have hfirst := htimes.met (Nat.zero_le timeout)
    rcases number_cases .unsigned64 0xffffffffffffffff rfl env "MAX_PAGE_SIZE" 1 1000
      with ⟨size, hsize, hsizes⟩ | ⟨f, hsize, hblamed⟩
    · simp only [hsize]
      by_cases hzero : size = 0
      · subst hzero
        exact Exact.of_error (.later hfirst (.here (hsizes.blamed (by decide))))
      · simp only [if_neg hzero, pure, Except.pure]
        have hone : 1 ≤ size := Nat.one_le_iff_ne_zero.2 hzero
        have hsecond := hsizes.met hone
        rcases env.flag_cases "SCHEMA_CACHE" true
          with ⟨cache, hcache, hflag⟩ | ⟨f, hcache, hblamed⟩
        · simp only [hcache]
          refine Exact.of_ok ?_ ⟨⟨timeout, htimes, rfl⟩, hsizes, hone, hflag⟩
          simp only [demands, List.forall_mem_cons]
          exact ⟨hfirst, hsecond, hflag.met, nofun⟩
        · simp only [hcache]
          exact Exact.of_error (.later hfirst (.later hsecond (.here hblamed)))
    · simp only [hsize]
      exact Exact.of_error (.later hfirst (.here hblamed))
  · simp only [htimeout, bind, Except.bind]
    exact Exact.of_error (.here hblamed)

end ServiceSettings

/-- Neither variable is as demanded, and the first one is reported. -/
example :
    DatabaseSettings.ofEnvironment
        (fun name => if name = "DB_PORT" then some " 65536 " else some "many") =
      .error ⟨"DB_PORT", " 65536 ", .integer .tooLarge⟩ := by
  rfl

/-- The greatest number of all still fits. -/
example :
    (ServiceSettings.ofEnvironment
        (fun name => if name = "MAX_PAGE_SIZE" then some "\t+0018446744073709551615" else none)).map
      (·.maxPageSize) = .ok 0xffffffffffffffff := by
  rfl

end GridQuery
