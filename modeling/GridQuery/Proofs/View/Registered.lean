import GridQuery.Proofs.Text.Bytes
import GridQuery.Proofs.View.Checks
import GridQuery.View.File

/-!
# Documents of views are loaded as a whole

A document may hold an entry under the same name more than once; the last of them counts. The
entries that count are put in the order of their names, in which they are checked, so a document
with a faulty view fails with the fault of the view whose name comes first, and a document without
one becomes a registry that has all of its views.

Main result: `Registry.loaded_or_first_fault`.
-/

namespace GridQuery

/-- The entry stands last among those of its name. -/
def LastEntry (entries : List (String × ViewEntry)) (name : String) (e : ViewEntry) : Prop :=
  ∃ before after, entries = before ++ (name, e) :: after ∧ name ∉ after.map (·.1)

section LastEntry

variable {entries : List (String × ViewEntry)} {p : String × ViewEntry} {name : String}
  {e k : ViewEntry}

/-- An entry at the end counts for its name and for no other. -/
theorem lastEntry_concat :
    LastEntry (entries ++ [p]) name e ↔
      name = p.1 ∧ e = p.2 ∨ name ≠ p.1 ∧ LastEntry entries name e := by
  constructor
  · rintro ⟨before, after, hsplit, hafter⟩
    rcases List.eq_nil_or_concat after with rfl | ⟨after, q, rfl⟩
    · obtain ⟨-, hlast⟩ := List.append_inj' hsplit rfl
      cases hlast
      exact .inl ⟨rfl, rfl⟩
    · rw [List.concat_eq_append, ← List.cons_append, ← List.append_assoc] at hsplit
      obtain ⟨rfl, hlast⟩ := List.append_inj' hsplit rfl
      cases hlast
      simp only [List.concat_eq_append, List.map_append, List.map_cons, List.map_nil,
        List.mem_append, List.mem_singleton, not_or] at hafter
      exact .inr ⟨hafter.2, before, after, rfl, hafter.1⟩
  · rintro (⟨rfl, rfl⟩ | ⟨hne, before, after, rfl, hafter⟩)
    · exact ⟨entries, [], rfl, List.not_mem_nil⟩
    · exact ⟨before, after ++ [p], by simp, by simp [hne, hafter]⟩

theorem LastEntry.unique (h : LastEntry entries name e) (hk : LastEntry entries name k) :
    e = k := by
  induction entries using List.reverseRecOn with
  | nil =>
    obtain ⟨before, after, hsplit, -⟩ := h
    simp at hsplit
  | append_singleton entries p ih =>
    rw [lastEntry_concat] at h hk
    rcases h with ⟨rfl, rfl⟩ | ⟨hne, h⟩
    · rcases hk with ⟨-, rfl⟩ | ⟨hne, -⟩
      · rfl
      · exact absurd rfl hne
    · rcases hk with ⟨rfl, -⟩ | ⟨-, hk⟩
      · exact absurd rfl hne
      · exact ih h hk

/-- Every name of a document has an entry that counts. -/
theorem exists_lastEntry_iff : (∃ e, LastEntry entries name e) ↔ name ∈ entries.map (·.1) := by
  induction entries using List.reverseRecOn with
  | nil =>
    simp only [List.map_nil, List.not_mem_nil, iff_false]
    rintro ⟨e, before, after, hsplit, -⟩
    simp at hsplit
  | append_singleton entries p ih =>
    simp only [lastEntry_concat, List.map_append, List.map_cons, List.map_nil, List.mem_append,
      List.mem_singleton, ← ih]
    by_cases hname : name = p.1
    · simp [hname]
    · simp [hname]

end LastEntry

/-! ## The order of the names -/

/-- The names of the entries grow. -/
def Ascending (entries : List (String × ViewEntry)) : Prop :=
  entries.Pairwise fun p q => p.1 < q.1

section Ascending

variable {sorted : List (String × ViewEntry)}

/-- Where the names grow, the first fault is that of the least name with a fault. -/
theorem Ascending.firstFault_iff (h : Ascending sorted) {sound : String × ViewEntry → Prop}
    {faulty : String × ViewEntry → RegistryFault → Prop} {f : RegistryFault} :
    FirstFault sound faulty sorted f ↔
      ∃ p ∈ sorted, faulty p f ∧ ∀ q ∈ sorted, q.1 < p.1 → sound q := by
  constructor
  · rintro ⟨before, p, after, rfl, hbefore, hp⟩
    have hafter := (List.pairwise_cons.1 (List.pairwise_append.1 h).2.1).1
    refine ⟨p, by simp, hp, fun q hq hlt => ?_⟩
    rcases List.mem_append.1 hq with hq | hq
    · exact hbefore q hq
    · rcases List.mem_cons.1 hq with rfl | hq
      · exact absurd hlt (lt_irrefl _)
      · exact absurd hlt (lt_asymm (hafter q hq))
  · rintro ⟨p, hp, hfault, hless⟩
    obtain ⟨before, after, rfl⟩ := List.append_of_mem hp
    have hbefore := (List.pairwise_append.1 h).2.2
    refine ⟨before, p, after, rfl, fun q hq => ?_, hfault⟩
    exact hless q (List.mem_append_left _ hq) (hbefore q hq p List.mem_cons_self)

namespace Registry

variable {name : String} {e : ViewEntry}

/-- An entry is put instead of one of the same name. -/
theorem mem_placeEntry_iff (h : Ascending sorted) {p : String × ViewEntry} :
    p ∈ placeEntry name e sorted ↔ p = (name, e) ∨ p.1 ≠ name ∧ p ∈ sorted := by
  -- Induction on the entries; the name goes in front of the first entry, takes its place, or goes
  -- behind it. That no other entry has the name follows from the order.
  induction sorted with
  | nil => simp [placeEntry]
  | cons q sorted ih =>
    obtain ⟨n, k⟩ := q
    obtain ⟨hfirst, hrest⟩ := List.pairwise_cons.1 h
    rw [placeEntry]
    by_cases hlt : name < n
    · have hne : ∀ q ∈ (n, k) :: sorted, q.1 ≠ name := by
        intro q hq
        rcases List.mem_cons.1 hq with rfl | hq
        · exact hlt.ne'
        · exact (hlt.trans (hfirst q hq)).ne'
      rw [if_pos hlt, List.mem_cons]
      exact or_congr_right ⟨fun hp => ⟨hne p hp, hp⟩, And.right⟩
    · rw [if_neg hlt]
      by_cases heq : name = n
      · subst heq
        have hne : ∀ q ∈ sorted, q.1 ≠ name := fun q hq => (hfirst q hq).ne'
        rw [if_pos rfl, List.mem_cons, List.mem_cons]
        refine or_congr_right ⟨fun hp => ⟨hne p hp, .inr hp⟩, ?_⟩
        rintro ⟨hp, rfl | hmem⟩
        · exact absurd rfl hp
        · exact hmem
      · rw [if_neg heq, List.mem_cons, List.mem_cons, ih hrest]
        constructor
        · rintro (rfl | rfl | ⟨hne, hp⟩)
          · exact .inr ⟨fun h => heq h.symm, .inl rfl⟩
          · exact .inl rfl
          · exact .inr ⟨hne, .inr hp⟩
        · rintro (rfl | ⟨hne, rfl | hp⟩)
          · exact .inr (.inl rfl)
          · exact .inl rfl
          · exact .inr (.inr ⟨hne, hp⟩)

theorem ascending_placeEntry (h : Ascending sorted) : Ascending (placeEntry name e sorted) := by
  induction sorted with
  | nil => exact List.pairwise_singleton _ _
  | cons q sorted ih =>
    obtain ⟨n, k⟩ := q
    obtain ⟨hfirst, hrest⟩ := List.pairwise_cons.1 h
    rw [placeEntry]
    by_cases hlt : name < n
    · rw [if_pos hlt]
      refine List.pairwise_cons.2 ⟨fun q hq => ?_, h⟩
      rcases List.mem_cons.1 hq with rfl | hq
      · exact hlt
      · exact hlt.trans (hfirst q hq)
    · rw [if_neg hlt]
      by_cases heq : name = n
      · subst heq
        rw [if_pos rfl]
        exact List.pairwise_cons.2 ⟨hfirst, hrest⟩
      · rw [if_neg heq]
        refine List.pairwise_cons.2 ⟨fun q hq => ?_, ih hrest⟩
        rcases (mem_placeEntry_iff hrest).1 hq with rfl | ⟨-, hq⟩
        · exact lt_of_le_of_ne (not_lt.1 hlt) fun h => heq h.symm
        · exact hfirst q hq

end Registry

end Ascending

namespace Registry

variable {entries : List (String × ViewEntry)}

theorem sortEntries_concat {name : String} {e : ViewEntry} :
    sortEntries (entries ++ [(name, e)]) = placeEntry name e (sortEntries entries) := by
  simp [sortEntries]

theorem ascending_sortEntries (entries : List (String × ViewEntry)) :
    Ascending (sortEntries entries) := by
  induction entries using List.reverseRecOn with
  | nil => exact List.Pairwise.nil
  | append_singleton entries p ih =>
    rw [sortEntries_concat]
    exact ascending_placeEntry ih

/-- **The entries that count are put in order.** -/
theorem mem_sortEntries_iff {name : String} {e : ViewEntry} :
    (name, e) ∈ sortEntries entries ↔ LastEntry entries name e := by
  induction entries using List.reverseRecOn with
  | nil =>
    refine ⟨nofun, ?_⟩
    rintro ⟨before, after, hsplit, -⟩
    simp at hsplit
  | append_singleton entries p ih =>
    rw [sortEntries_concat, mem_placeEntry_iff (ascending_sortEntries entries), lastEntry_concat,
      ih, Prod.ext_iff]

/-! ## Checks -/

theorem checks_entry :
    Checks (fun p => (View.ofEntry p.1 p.2).mapError (RegistryFault.view p.1))
      (fun p : String × ViewEntry => p.2.Sound)
      fun p f => ∃ fault, p.2.Faulty fault ∧ f = .view p.1 fault := by
  constructor
  · intro p
    rw [← (View.checks_ofEntry p.1).ok_iff]
    cases View.ofEntry p.1 p.2 <;> simp [Except.mapError]
  · intro p f
    simp only [← (View.checks_ofEntry p.1).error_iff]
    cases View.ofEntry p.1 p.2 with
    | error fault => simp [Except.mapError, eq_comm]
    | ok v => simp [Except.mapError]

theorem ofEntries_eq (entries : List (String × ViewEntry)) :
    ofEntries entries =
      entries.mapM fun p => (View.ofEntry p.1 p.2).mapError (RegistryFault.view p.1) := by
  induction entries with
  | nil => rfl
  | cons p entries ih =>
    rw [ofEntries, List.mapM_cons, ih]
    cases View.ofEntry p.1 p.2 with
    | error f => rfl
    | ok v =>
      cases entries.mapM fun p => (View.ofEntry p.1 p.2).mapError (RegistryFault.view p.1) <;> rfl

/-- The registry has the views of the entries that count, and no others. -/
structure Holds (r : Registry) (entries : List (String × ViewEntry)) : Prop where
  names : ∀ name, name ∈ r.names ↔ name ∈ entries.map (·.1)
  increasing : r.names.Pairwise fun m n => Text.bytes m < Text.bytes n
  view : ∀ name e, LastEntry entries name e → ∃ v, r.get? name = some v ∧ View.Keeps name e v
  absent : ∀ name, name ∉ entries.map (·.1) → r.get? name = none

theorem get?_eq_none_iff {r : Registry} {name : String} : r.get? name = none ↔ name ∉ r.names := by
  simp [get?, names]

/-- A view is found under its name. -/
theorem name_of_get? {r : Registry} {name : String} {v : View} (h : r.get? name = some v) :
    v.name = name := by
  simpa using List.find?_some h

theorem holds_of_forall₂ {r : Registry}
    (h : List.Forall₂ (fun p v => View.ofEntry p.1 p.2 = .ok v) (sortEntries entries) r.views) :
    r.Holds entries := by
  have hkeeps : List.Forall₂ (fun p v => View.Keeps p.1 p.2 v) (sortEntries entries) r.views :=
    h.imp fun _ _ => View.keeps_ofEntry
  have hnames : r.names = (sortEntries entries).map (·.1) :=
    map_eq_of_forall₂ (hkeeps.imp fun _ _ hv => hv.name)
  have hmem (name : String) : name ∈ r.names ↔ name ∈ entries.map (·.1) := by
    simp [hnames, mem_sortEntries_iff, exists_lastEntry_iff]
  refine ⟨hmem, ?_, fun name e he => ?_, fun name hname => ?_⟩
  · rw [hnames, List.pairwise_map]
    exact (ascending_sortEntries entries).imp Text.lt_iff_bytes_lt.1
  · have hname : r.get? name ≠ none := fun hnone =>
      get?_eq_none_iff.1 hnone ((hmem name).2 (exists_lastEntry_iff.1 ⟨e, he⟩))
    obtain ⟨v, hv⟩ := Option.ne_none_iff_exists'.1 hname
    obtain ⟨⟨n, k⟩, hp, hvkeeps⟩ := exists_mem_left_of_forall₂ hkeeps (List.mem_of_find?_eq_some hv)
    obtain rfl : n = name := hvkeeps.name.symm.trans (name_of_get? hv)
    obtain rfl := he.unique (mem_sortEntries_iff.1 hp)
    exact ⟨v, hv, hvkeeps⟩
  · rw [get?_eq_none_iff, hmem]
    exact hname

/-- **Loading is all or nothing.** A document that can be read is loaded if and only if each of its
views passes its checks. The registry then has every view under its name, the names in the order of
their bytes. Otherwise the fault is that of the first check that the first faulty view fails, in the
same order. -/
theorem loaded_or_first_fault {text : String}
    (h : Document.decode ViewEntry.readAll text = .ok entries) :
    ((∃ r, ofText text = .ok r) ↔ ∀ name e, LastEntry entries name e → e.Sound) ∧
      (∀ r, ofText text = .ok r → r.Holds entries) ∧
      ∀ f, ofText text = .error f ↔
        ∃ name e fault, LastEntry entries name e ∧ e.Faulty fault ∧ f = .view name fault ∧
          (∀ path, (ViewsFailure.ofFault path f).message =
            "invalid view '" ++ name ++ "': " ++ fault.reason) ∧
          ∀ m k, LastEntry entries m k → Text.bytes m < Text.bytes name → k.Sound := by
  have htext : ofText text = (ofEntries (sortEntries entries)).map (⟨·⟩) := by
    rw [ofText, h]
  -- The entries are checked in the order of their names, so the first fault is that of the least.
  have hchecks := checks_entry.mapM
  refine ⟨?_, fun r hr => ?_, fun f => ?_⟩
  · have hok : (∃ r, ofText text = .ok r) ↔ ∃ vs, ofEntries (sortEntries entries) = .ok vs := by
      rw [htext]
      cases ofEntries (sortEntries entries) <;> simp [Except.map]
    rw [hok, ofEntries_eq, hchecks.ok_iff]
    simp [mem_sortEntries_iff]
  · obtain ⟨entries', hentries, hviews⟩ := ofText_ok hr
    rw [h] at hentries
    cases hentries
    exact holds_of_forall₂ hviews
  · have herror : ofText text = .error f ↔ ofEntries (sortEntries entries) = .error f := by
      rw [htext]
      cases ofEntries (sortEntries entries) <;> simp [Except.map]
    rw [herror, ofEntries_eq, hchecks.error_iff, (ascending_sortEntries entries).firstFault_iff]
    simp only [Text.lt_iff_bytes_lt, Prod.exists, Prod.forall, mem_sortEntries_iff]
    constructor
    · rintro ⟨name, e, he, ⟨fault, hfault, rfl⟩, hless⟩
      exact ⟨name, e, fault, he, hfault, rfl, fun path => rfl, hless⟩
    · rintro ⟨name, e, fault, he, hfault, hf, -, hless⟩
      exact ⟨name, e, he, ⟨fault, hfault, hf⟩, hless⟩

/-- A document whose view "b" has no table, and whose view "a" stands in it twice: the second time
two columns are shown under one name and a condition has no value. -/
def faultyText : String :=
  "\x7b\"b\":\x7b\"table\":\"\",\"columns\":[]\x7d,\"a\":\x7b\"table\":\"\",\"columns\":[]\x7d," ++
    "\"a\":\x7b\"table\":\"t\",\"columns\":[\x7b\"source\":\"x\"\x7d,\x7b\"source\":\"x\"\x7d]," ++
    "\"where_all\":[\x7b\"column\":\"c\",\"op\":\"eq\"\x7d]\x7d\x7d"

/-- The first fault of the document is a name that is repeated in a view. -/
def repeats (view exposed : String) : Except RegistryFault Registry → Bool
  | .error (.view v (.repeatedName n)) => v == view && n == exposed
  | _ => false

theorem eq_of_repeats {view exposed : String} {result : Except RegistryFault Registry}
    (h : repeats view exposed result = true) :
    result = .error (.view view (.repeatedName exposed)) := by
  unfold repeats at h
  split at h
  · rw [Bool.and_eq_true, beq_iff_eq, beq_iff_eq] at h
    obtain ⟨rfl, rfl⟩ := h
    rfl
  · cases h

theorem repeats_faultyText : repeats "a" "x" (ofText faultyText) = true := by
  decide +kernel

theorem names_faultyText :
    (Document.decode ViewEntry.readAll faultyText).toOption.map (·.map (·.1)) =
      some ["b", "a", "a"] := by
  decide +kernel

/-- Of three faults in two views it is the repeated name that is reported. -/
theorem loaded_or_first_fault_repeated :
    ofText faultyText = .error (.view "a" (.repeatedName "x")) ∧
      ∃ entries, Document.decode ViewEntry.readAll faultyText = .ok entries ∧
        entries.map (·.1) = ["b", "a", "a"] ∧
        ∃ e, LastEntry entries "a" e ∧ e.Faulty (.repeatedName "x") := by
  have hfault := eq_of_repeats repeats_faultyText
  obtain ⟨entries, hentries, hnames⟩ := exists_ok_of_map names_faultyText
  obtain ⟨name, e, fault, he, hfaulty, hf, -⟩ := ((loaded_or_first_fault hentries).2.2 _).1 hfault
  cases hf
  exact ⟨hfault, entries, hentries, hnames, e, he, hfaulty⟩

end Registry

end GridQuery
