import GridQuery.Proofs.Grid.Collector
import GridQuery.Proofs.Http.Status
import GridQuery.Proofs.Plan.Assembly
import GridQuery.Proofs.Widget.Reports
import Mathlib.Data.List.Dedup

/-!
# Diagnostics of an answered request

A posted request is diagnosed in two places: its body where the request is made of it, and the
request where it is planned. Each place collects what it finds and warns of it as it is found. The
reply counts the two collections joined, so it counts right, and there is one warning for each
diagnostic, exactly when the two have nothing in common.

Main result: `Http.Site.posted_counted`.
-/

namespace GridQuery

variable {σ : Type}

/-! ## Warnings -/

/-- The diagnostic that a notice warns of. -/
def Notice.warning? (n : Notice) : Option Diagnostic :=
  match n with
  | .diagnosed d => if n.event.level = .warn then some d else none
  | _ => none

/-- The diagnostics that notices warn of, in their order. -/
def Notice.warned (ns : List Notice) : List Diagnostic := ns.filterMap warning?

theorem Notice.warned_append (ns ns' : List Notice) :
    warned (ns ++ ns') = warned ns ++ warned ns' :=
  List.filterMap_append

/-- Diagnostics are warned of one by one. -/
theorem Notice.warned_ofDiagnostics (ds : Diagnostics) :
    warned (ofDiagnostics ds) = ds.entries := by
  rw [warned, ofDiagnostics, List.filterMap_map]
  exact List.filterMap_some

namespace Service

variable (s : Service σ) (st : ServiceState σ)

theorem warned_describe (table : String) :
    Notice.warned ((s.describe table).run st).2.notices = Notice.warned st.notices := by
  obtain ⟨ns, hns, hkinds⟩ := s.notices_describe st table
  have hnone : Notice.warned ns = [] := by
    refine List.filterMap_eq_nil_iff.2 fun n hn => ?_
    rcases hkinds n hn with ⟨k, rfl⟩ | ⟨after, rfl⟩ <;> rfl
  rw [hns, Notice.warned_append, hnone, List.append_nil]

/-- Running a plan warns of no diagnostic. -/
theorem warned_run (r : Request) (p : Plan) (ds : Diagnostics)
    (answer : Option (Except ExecutionFailure PageRows)) :
    Notice.warned (s.runNotices r p ds answer) = [] := by
  refine List.filterMap_eq_nil_iff.2 fun n hn => ?_
  unfold runNotices at hn
  rcases List.mem_append.1 hn with hn | hn
  · rcases List.mem_append.1 hn with hn | hn
    · simp only [List.mem_cons, List.not_mem_nil, or_false] at hn
      rcases hn with rfl | rfl | rfl <;> rfl
    · cases answer with
      | none =>
        obtain ⟨after, -, rfl⟩ := List.mem_map.1 hn
        rfl
      | some _ => cases hn
  · split at hn
    · obtain ⟨data, -, rfl⟩ := List.mem_map.1 hn
      rfl
    · cases hn

variable {s st} in
/-- **An answered request is warned of as it is diagnosed.** -/
theorem warned_process {r : Request} {outcome : Outcome} {st' : ServiceState σ}
    (h : (s.process r).run st = (.ok outcome, st')) :
    Notice.warned st'.notices = Notice.warned st.notices ++ outcome.diagnostics.entries := by
  obtain ⟨schema, st₁, p, answer, -, hdescribe, -, -, hnotices⟩ := process_ok h
  have hlooked := s.warned_describe st r.table
  rw [hdescribe] at hlooked
  rw [hnotices, Notice.warned_append, Notice.warned_append, Notice.warned_ofDiagnostics,
    s.warned_run, hlooked, List.append_nil]

end Service

/-! ## Counting -/

/-- The diagnostics are distinct, the header is the number of distinct ones, and each was warned of
once. -/
structure Http.Counted (ds : Diagnostics) (header : Option Nat) (warned : List Diagnostic) :
    Prop where
  distinct : ds.entries.Nodup
  counted : header = some ds.entries.dedup.length
  reported : ∀ d ∈ ds.entries, warned.count d = 1

/-- Everything is counted right once the diagnostics are distinct. -/
theorem Http.counted_iff {ds : Diagnostics} :
    Counted ds (some ds.size) ds.entries ↔ ds.entries.Nodup := by
  refine ⟨fun h => h.distinct, fun h => ⟨h, ?_, fun d hd => List.count_eq_one_of_mem h hd⟩⟩
  rw [h.dedup, Diagnostics.size]

namespace Http.Site

variable {site : Site σ} {st st' : ServiceState σ} {r : Request} {name : String}

/-- The diagnostics of the body and of its request are distinct when these have none in common. -/
theorem nodup_joined_iff {v : View} {b : Widget.Body} {outcome : Outcome}
    (h : (site.processed st v b).1 = .ok outcome) :
    ((Diagnostics.collect b.findings).extend outcome.diagnostics).entries.Nodup ↔
      b.SaysOnce v := by
  obtain ⟨schema, -, p, -, -, -, hplan, hds, -⟩ :=
    Service.process_ok (Prod.ext h rfl : site.processed st v b = (.ok outcome, _))
  have hselect : (Plan.select v.columns schema).isEmpty = false := Plan.isEmpty_select hplan
  rw [Diagnostics.nodup_extend_iff, hds, ← Widget.Body.apart_iff (m := site.maxPageSize) hselect]
  simp only [Diagnostics.nodup_collect, Diagnostics.mem_collect, true_and]

/-- **The diagnostics of an answered request are distinct, counted right and warned of once exactly
when the body and its request have none in common;** and a collection has each diagnostic once
exactly when no joined ones had any in common. -/
theorem posted_counted (g : Gathering) {v : View} {b : Widget.Body} {reply : Reply}
    (hpost : r.PostsTo name) (hfinds : site.Finds name r.body v b)
    (hrun : (site.respond r).run st = (some reply, st')) (hstatus : reply.status = 200) :
    (g.diagnostics.entries.Nodup ↔ g.Apart) ∧
    ∃ outcome warned, (site.processed st v b).1 = .ok outcome ∧
      Notice.warned st'.notices = Notice.warned st.notices ++ warned ∧
      (Counted ((Diagnostics.collect b.findings).extend outcome.diagnostics) reply.diagnostics
        warned ↔ b.SaysOnce v) := by
  refine ⟨g.nodup_iff, ?_⟩
  have hserved := posted_answers hpost hrun fun v' b' hfinds' =>
    ne_unwritable_of_answer hpost (congrArg Prod.fst hrun) hfinds'
  obtain ⟨_, hsame, hanswers⟩ := hserved
  obtain rfl := Option.some.inj hsame
  obtain ⟨outcome, houtcome⟩ := hfinds.exists_iff.1 (hanswers.served.1 hstatus)
  rw [run_posted _ _ hpost, hfinds.view, hfinds.body] at hrun
  simp only [run_page, houtcome] at hrun
  obtain ⟨hreply, rfl⟩ := Prod.mk.inj hrun
  obtain rfl := Option.some.inj hreply
  refine ⟨outcome, ((Diagnostics.collect b.findings).extend outcome.diagnostics).entries, houtcome,
    ?_, ?_⟩
  · have hwarned := Service.warned_process
      (Prod.ext houtcome rfl : site.processed st v b = (.ok outcome, _))
    simp only [ServiceState.noting, replyNotices, List.append_nil] at hwarned ⊢
    rw [hwarned, Notice.warned_append, Notice.warned_ofDiagnostics, Diagnostics.extend,
      List.append_assoc]
  · exact counted_iff.trans (nodup_joined_iff houtcome)

/-- What is diagnosed of a text that is posted for the view, if it is answered. -/
def joinedOf (site : Site σ) (v : View) (st : ServiceState σ) (text : String) :
    Option (List Diagnostic) :=
  (bodyAtStart text).toOption.bind fun b => (site.processed st v b).1.toOption.map fun outcome =>
    ((Diagnostics.collect b.findings).extend outcome.diagnostics).entries

theorem exists_of_joinedOf {v : View} {text : String} {ds : List Diagnostic}
    (h : site.joinedOf v st text = some ds) :
    ∃ b outcome, bodyAtStart text = .ok b ∧ (site.processed st v b).1 = .ok outcome ∧
      ((Diagnostics.collect b.findings).extend outcome.diagnostics).entries = ds := by
  obtain ⟨b, hb, h⟩ := Option.bind_eq_some_iff.1 h
  obtain ⟨outcome, houtcome, h⟩ := Option.map_eq_some_iff.1 h
  exact ⟨b, outcome, eq_ok_of_toOption hb, eq_ok_of_toOption houtcome, h⟩

/-- What shows of an answer: the status, the header, and the diagnostics that were warned of. -/
def shown (run : Option Reply × ServiceState σ) :
    Option (Nat × Option Nat) × List Diagnostic :=
  (run.1.map fun reply => (reply.status, reply.diagnostics), Notice.warned run.2.notices)

theorem exists_of_shown {run : Option Reply × ServiceState σ} {status : Nat} {header : Option Nat}
    {warned : List Diagnostic} (h : shown run = (some (status, header), warned)) :
    ∃ reply st', run = (some reply, st') ∧ reply.status = status ∧ reply.diagnostics = header ∧
      Notice.warned st'.notices = warned := by
  obtain ⟨answer, st'⟩ := run
  obtain ⟨hanswer, hwarned⟩ := Prod.mk.inj h
  obtain ⟨reply, rfl, hreply⟩ := Option.map_eq_some_iff.1 hanswer
  obtain ⟨hstatus, hheader⟩ := Prod.mk.inj hreply
  exact ⟨reply, st', rfl, hstatus, hheader, hwarned⟩

/-- A request that sorts twice by a column that the view lacks, and by a column that it does not
list. -/
def astray : Request :=
  .post "/api/views/v" ("\x7b\"columns\":[\x7b\"data\":\"b\"\x7d]," ++
    "\"order\":[\x7b\"column\":0\x7d,\x7b\"column\":7\x7d,\x7b\"column\":0\x7d]\x7d")

theorem posted_counted_astray :
    (Gathering.push (.push .start ⟨"a", .notSortable⟩)
      ⟨"a", .notSortable⟩).diagnostics.entries.Nodup ∧
    ∃ (b : Widget.Body) (reply : Reply) (st' : ServiceState Memory) (outcome : Outcome)
      (warned : List Diagnostic), (sample [sampleColumn true]).Finds "v" astray.body
        (sampleView [sampleColumn true]) b ∧
      ((sample [sampleColumn true]).respond astray).run sampleState = (some reply, st') ∧
      reply.diagnostics = some 2 ∧
      Counted ((Diagnostics.collect b.findings).extend outcome.diagnostics) reply.diagnostics
        warned ∧
      b.SaysOnce (sampleView [sampleColumn true]) := by
  have hpost : astray.PostsTo "v" :=
    ⟨rfl, ⟨"v", by decide +kernel, by decide +kernel⟩, by decide +kernel, by decide +kernel⟩
  have hshown : shown (((sample [sampleColumn true]).respond astray).run sampleState) =
      (some (200, some 2), [⟨"#7", .unknownColumn⟩, ⟨"b", .unknownColumn⟩]) := by
    decide +kernel
  have hjoined : (sample [sampleColumn true]).joinedOf
      (sampleView [sampleColumn true]) sampleState astray.body =
        some [⟨"#7", .unknownColumn⟩, ⟨"b", .unknownColumn⟩] := by
    decide +kernel
  obtain ⟨reply, st', hrun, hstatus, hheader, hwarned⟩ := exists_of_shown hshown
  obtain ⟨b, outcome, hbody, houtcome, hentries⟩ := exists_of_joinedOf hjoined
  have hfinds : (sample [sampleColumn true]).Finds "v" astray.body
      (sampleView [sampleColumn true]) b := ⟨rfl, hbody⟩
  obtain ⟨hgathering, outcome', warned, houtcome', hnotices, hcounted⟩ :=
    posted_counted (.push (.push .start ⟨"a", .notSortable⟩) ⟨"a", .notSortable⟩) hpost hfinds
      hrun hstatus
  obtain rfl : outcome = outcome' := Except.ok.inj (houtcome.symm.trans houtcome')
  have hreported : warned = [⟨"#7", .unknownColumn⟩, ⟨"b", .unknownColumn⟩] :=
    hnotices.symm.trans hwarned
  have hright : Counted ((Diagnostics.collect b.findings).extend outcome.diagnostics)
      reply.diagnostics warned := by
    constructor
    · rw [hentries]
      decide
    · rw [hentries, hheader]
      decide
    · rw [hentries, hreported]
      decide
  exact ⟨hgathering.2 trivial, b, reply, st', outcome, warned, hfinds, hrun, hheader, hright,
    hcounted.1 hright⟩

/-- A request that sorts by one column twice, once against what the client allows. -/
def forbidden : Request :=
  .post "/api/views/v" ("\x7b\"columns\":[\x7b\"data\":\"a\",\"orderable\":false\x7d," ++
    "\x7b\"data\":\"a\"\x7d],\"order\":[\x7b\"column\":0\x7d,\x7b\"column\":1\x7d]\x7d")

/-- At a view whose only column is not sortable, the one diagnostic is counted and warned of
twice. -/
theorem forbidden_counted_twice :
    (∃ g : Gathering, ¬ g.diagnostics.entries.Nodup) ∧ forbidden.PostsTo "v" ∧
    ∃ (b : Widget.Body) (reply : Reply) (st' : ServiceState Memory) (outcome : Outcome),
      (sample [sampleColumn false]).Finds "v" forbidden.body (sampleView [sampleColumn false]) b ∧
      ((sample [sampleColumn false]).respond forbidden).run sampleState = (some reply, st') ∧
      reply.status = 200 ∧
      ((sample [sampleColumn false]).processed sampleState
        (sampleView [sampleColumn false]) b).1 = .ok outcome ∧
      ¬ ((Diagnostics.collect b.findings).extend outcome.diagnostics).entries.Nodup ∧
      reply.diagnostics ≠
        some ((Diagnostics.collect b.findings).extend outcome.diagnostics).entries.dedup.length ∧
      (Notice.warned st'.notices).count ⟨"a", .notSortable⟩ = 2 := by
  have hgathering : ¬ (Gathering.extend (.push .start ⟨"a", .notSortable⟩)
      (.push .start ⟨"a", .notSortable⟩)).diagnostics.entries.Nodup := by
    decide
  have hpost : forbidden.PostsTo "v" :=
    ⟨rfl, ⟨"v", by decide +kernel, by decide +kernel⟩, by decide +kernel, by decide +kernel⟩
  have hshown : shown (((sample [sampleColumn false]).respond forbidden).run sampleState) =
      (some (200, some 2), [⟨"a", .notSortable⟩, ⟨"a", .notSortable⟩]) := by
    decide +kernel
  have hjoined : (sample [sampleColumn false]).joinedOf
      (sampleView [sampleColumn false]) sampleState forbidden.body =
        some [⟨"a", .notSortable⟩, ⟨"a", .notSortable⟩] := by
    decide +kernel
  obtain ⟨reply, st', hrun, hstatus, hheader, hwarned⟩ := exists_of_shown hshown
  obtain ⟨b, outcome, hbody, houtcome, hentries⟩ := exists_of_joinedOf hjoined
  refine ⟨⟨_, hgathering⟩, hpost, b, reply, st', outcome, ⟨rfl, hbody⟩, hrun, hstatus, houtcome,
    ?_, ?_, ?_⟩
  · rw [hentries]
    decide
  · rw [hentries, hheader]
    decide
  · rw [hwarned]
    decide

end Http.Site

end GridQuery
