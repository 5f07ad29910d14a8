import GridQuery.Proofs.Http.Posted

/-!
# The status of a posted request

The status says how far a posted request came. A name without a view and a body that cannot be read
end it before the service is asked for anything. A request that the service refuses ends before a
page is fetched: it is refused by its check, or for want of a plan once the columns are known.

Only the document at the start of a body is read, and what follows it is not looked at. So a body
that would not pass as a whole may be answered all the same.

Main results: `Service.run_process_of_refused`, and `Http.Site.posted_answers` for all statuses.
-/

namespace GridQuery

variable {σ : Type}

/-! ## Refused requests -/

namespace Service

/-- The service with other operations for rows, counts and pages. -/
def fetching (s : Service σ)
    (rows : Statement → List SelectedColumn → Action σ (Except DatabaseError (List Row)))
    (count : Statement → Action σ (Except DatabaseError Nat))
    (page : Plan → Action σ (Except ExecutionFailure PageRows)) : Service σ :=
  ⟨{ s.backend with fetchRows := rows, fetchCount := count, fetchPage := page }, s.timeout⟩

variable (s : Service σ) (st : ServiceState σ)

/-- Nothing that comes of a plan that is run blames the request. -/
theorem outcomeOf_ne_refused (r : Request) (ds : Diagnostics)
    (answer : Option (Except ExecutionFailure PageRows)) (f : RequestFault) :
    s.outcomeOf r ds answer ≠ .error (.failure (.invalidRequest f)) := by
  unfold outcomeOf
  cases answer with
  | none => simp [inTime]
  | some answer =>
    cases answer with
    | error e => simp [inTime]
    | ok page => cases hdata : Column.records r.columns page.rows <;> simp [inTime, hdata]

variable {s st} in
/-- **A refused request is refused whatever rows, counts and pages there are.** -/
theorem run_process_of_refused {r : Request} {f : RequestFault}
    (h : ((s.process r).run st).1 = .error (.failure (.invalidRequest f)))
    (rows : Statement → List SelectedColumn → Action σ (Except DatabaseError (List Row)))
    (count : Statement → Action σ (Except DatabaseError Nat))
    (page : Plan → Action σ (Except ExecutionFailure PageRows)) :
    ((s.fetching rows count page).process r).run st = (s.process r).run st := by
  have hdescribe : ((s.fetching rows count page).describe r.table).run st =
      (s.describe r.table).run st := rfl
  -- A refusal comes before the fetching: stage by stage both services do the same until there.
  rw [run_process] at h
  rw [run_process, run_process, hdescribe]
  cases hcheck : r.check with
  | error f' => rfl
  | ok _ =>
    rw [hcheck] at h
    simp only at h ⊢
    generalize (s.describe r.table).run st = described at h ⊢
    obtain ⟨result, st'⟩ := described
    cases result with
    | error f' => rfl
    | ok schema =>
      have hcompile : ((s.fetching rows count page).compile r schema).run st' =
          (s.compile r schema).run st' := rfl
      simp only [hcompile] at h ⊢
      generalize (s.compile r schema).run st' = compiled at h ⊢
      obtain ⟨planned, st''⟩ := compiled
      cases planned with
      | error f' => rfl
      | ok planned =>
        simp only [run_run] at h
        exact absurd h (s.outcomeOf_ne_refused r planned.2 _ f)

end Service

/-! ## Statuses -/

namespace Http.Site

variable (site : Site σ)

/-- The site on another service. -/
def on {τ : Type} (s : Service τ) : Site τ := ⟨s, site.views, site.maxPageSize⟩

/-- There is a view of the name, and a body at the start of the text. -/
structure Finds (name text : String) (v : View) (b : Widget.Body) : Prop where
  view : site.views.get? (Text.trim name) = some v
  body : bodyAtStart text = .ok b

/-- The reply's status says how far the request came, and nothing was done beyond that. -/
structure Answers (st : ServiceState σ) (r : Request) (name : String) (reply : Reply)
    (st' : ServiceState σ) : Prop where
  notFound : reply.status = 404 ↔ site.views.get? (Text.trim name) = none
  unprocessable : reply.status = 422 ↔
    (∃ v, site.views.get? (Text.trim name) = some v) ∧ ∃ f, bodyAtStart r.body = .error f
  refused : reply.status = 400 ↔ ∃ v b, site.Finds name r.body v b ∧
    ∃ f, (site.processed st v b).1 = .error (.failure (.invalidRequest f))
  late : reply.status = 504 ↔ ∃ v b, site.Finds name r.body v b ∧
    ∃ d table after, (site.processed st v b).1 = .error (.failure (.timeout d table after))
  failed : reply.status = 500 ↔ ∃ v b, site.Finds name r.body v b ∧
    ((∃ f, (site.processed st v b).1 = .error (.failure (.schema f))) ∨
      ∃ f, (site.processed st v b).1 = .error (.failure (.execution f)))
  served : reply.status = 200 ↔ ∃ v b, site.Finds name r.body v b ∧
    ∃ outcome, (site.processed st v b).1 = .ok outcome
  envelope : reply.status = 200 → ∃ v b, site.Finds name r.body v b ∧
    ∃ outcome, (site.processed st v b).1 = .ok outcome ∧
      reply.content = .json outcome.response.json
  /-- A text that is a body as a whole is always taken for it. -/
  whole : ∀ b, Document.decode Widget.Body.read r.body = .ok b → bodyAtStart r.body = .ok b
  status : reply.status ∈ [404, 422, 400, 504, 500, 200]
  /-- No service and no state makes a difference, and none is changed. -/
  untouched : reply.status = 404 ∨ reply.status = 422 →
    ∀ {τ : Type} (s : Service τ) (stτ : ServiceState τ),
      ((site.on s).respond r).run stτ = (some reply, stτ)
  /-- Whatever rows, counts and pages there are makes no difference. -/
  unqueried : reply.status = 400 → ∀ rows count page,
    ((site.on (site.service.fetching rows count page)).respond r).run st = (some reply, st')

/-- Reading a text as a whole reads its start. -/
theorem bodyAtStart_of_decode {text : String} {b : Widget.Body}
    (h : Document.decode Widget.Body.read text = .ok b) : bodyAtStart text = .ok b := by
  unfold Document.decode at h
  cases hstart : bodyAtStart text with
  | error f =>
    have hread : Widget.Body.read Document.maxDepth (Document.ofText text).1 = .error f := hstart
    simp [hread, bind, Except.bind] at h
  | ok b' =>
    have hread : Widget.Body.read Document.maxDepth (Document.ofText text).1 = .ok b' := hstart
    simp only [hread, bind, Except.bind] at h
    split at h
    · exact h
    · cases h

variable {site} {st st' : ServiceState σ} {r : Request} {name : String}

/-- There is one view and one body at most. -/
theorem Finds.exists_iff {v : View} {b : Widget.Body} (h : site.Finds name r.body v b)
    {p : View → Widget.Body → Prop} :
    (∃ v' b', site.Finds name r.body v' b' ∧ p v' b') ↔ p v b := by
  constructor
  · rintro ⟨v', b', ⟨hview, hbody⟩, hp⟩
    rw [h.view] at hview
    rw [h.body] at hbody
    cases hview
    cases hbody
    exact hp
  · exact fun hp => ⟨v, b, h, hp⟩

theorem answers_unknown (hpost : r.PostsTo name)
    (hview : site.views.get? (Text.trim name) = none) :
    site.Answers st r name
      (.failure 404 ("View '" ++ Text.trim name ++ "' is not configured")) st' := by
  have hfinds : ∀ v b, ¬ site.Finds name r.body v b := by
    rintro v b ⟨hsome, -⟩
    rw [hview] at hsome
    cases hsome
  constructor
  case whole => exact fun b hb => bodyAtStart_of_decode hb
  case untouched =>
    intro _ τ s stτ
    rw [run_posted _ _ hpost]
    simp only [on, hview]
  all_goals simp [Reply.failure, Reply.json, hview, hfinds]

theorem answers_unreadable (hpost : r.PostsTo name) {v : View} {f : DecodeFault}
    (hview : site.views.get? (Text.trim name) = some v) (hbody : bodyAtStart r.body = .error f) :
    site.Answers st r name (.failure 422 (BodyFault.ofDecode f).message) st' := by
  have hfinds : ∀ v b, ¬ site.Finds name r.body v b := by
    rintro v b ⟨-, hok⟩
    rw [hbody] at hok
    cases hok
  constructor
  case whole => exact fun b hb => bodyAtStart_of_decode hb
  case untouched =>
    intro _ τ s stτ
    rw [run_posted _ _ hpost]
    simp only [on, hview, hbody]
  all_goals simp [Reply.failure, Reply.json, hview, hbody, hfinds]

theorem run_page_of_refused {v : View} {b : Widget.Body} {f : RequestFault}
    (h : (site.processed st v b).1 = .error (.failure (.invalidRequest f)))
    (rows : Statement → List SelectedColumn → Action σ (Except DatabaseError (List Row)))
    (count : Statement → Action σ (Except DatabaseError Nat))
    (page : Plan → Action σ (Except ExecutionFailure PageRows)) :
    ((site.on (site.service.fetching rows count page)).page v b).run st =
      (site.page v b).run st := by
  have hsame : (site.on (site.service.fetching rows count page)).processed st v b =
      site.processed st v b := Service.run_process_of_refused h rows count page
  rw [run_page, run_page, hsame]

theorem answers_processed (hpost : r.PostsTo name) {v : View} {b : Widget.Body}
    (hfinds : site.Finds name r.body v b) {reply : Reply}
    (hrun : (site.page v b).run st = (some reply, st')) :
    site.Answers st r name reply st' := by
  have hreply : replyTo b (site.processed st v b).1 = some reply := by
    rw [run_page] at hrun
    exact congrArg Prod.fst hrun
  -- The reply is a page or says what went wrong; only a refusal has to hold for all services.
  cases hresult : (site.processed st v b).1 with
  | ok outcome =>
    rw [hresult] at hreply
    obtain rfl := Option.some.inj hreply
    constructor
    case whole => exact fun b hb => bodyAtStart_of_decode hb
    all_goals simp [hfinds.exists_iff, hresult, hfinds.view, hfinds.body]
  | error fault =>
    rw [hresult] at hreply
    cases fault with
    | unwritable => cases hreply
    | failure f =>
      obtain rfl := Option.some.inj hreply
      constructor
      case whole => exact fun b hb => bodyAtStart_of_decode hb
      case unqueried =>
        intro hstatus rows count page
        cases f with
        | invalidRequest f =>
          have hview : (site.on (site.service.fetching rows count page)).views.get?
              (Text.trim name) = some v := hfinds.view
          rw [run_posted _ _ hpost, hview, hfinds.body]
          exact (run_page_of_refused hresult rows count page).trans hrun
        | schema f => simp [Reply.failure, Reply.json, statusOf] at hstatus
        | execution f => simp [Reply.failure, Reply.json, statusOf] at hstatus
        | timeout d table after => simp [Reply.failure, Reply.json, statusOf] at hstatus
      all_goals
        cases f <;>
          simp [Reply.failure, Reply.json, statusOf, hfinds.exists_iff, hresult, hfinds.view,
            hfinds.body]

theorem exists_replyTo (b : Widget.Body) {result : Except ProcessFault Outcome}
    (h : result ≠ .error .unwritable) : ∃ reply, replyTo b result = some reply := by
  cases result with
  | ok outcome => exact ⟨_, rfl⟩
  | error fault =>
    cases fault with
    | failure f => exact ⟨_, rfl⟩
    | unwritable => exact absurd rfl h

/-- **A posted request is answered, and the status of the reply says what became of it,** as long
as no transform fails on a value. -/
theorem posted_answers (hpost : r.PostsTo name) {answer : Option Reply}
    (hrun : (site.respond r).run st = (answer, st'))
    (hwritable : ∀ v b, site.Finds name r.body v b →
      (site.processed st v b).1 ≠ .error .unwritable) :
    ∃ reply, answer = some reply ∧ site.Answers st r name reply st' := by
  rw [run_posted _ _ hpost] at hrun
  -- Three outcomes: no such view, a body that cannot be read, and a request that is processed.
  cases hview : site.views.get? (Text.trim name) with
  | none =>
    rw [hview] at hrun
    obtain ⟨rfl, rfl⟩ := Prod.mk.inj hrun
    exact ⟨_, rfl, answers_unknown hpost hview⟩
  | some v =>
    cases hbody : bodyAtStart r.body with
    | error f =>
      rw [hview, hbody] at hrun
      obtain ⟨rfl, rfl⟩ := Prod.mk.inj hrun
      exact ⟨_, rfl, answers_unreadable hpost hview hbody⟩
    | ok b =>
      rw [hview, hbody] at hrun
      have hpage : (site.page v b).run st = (answer, st') := hrun
      have hfinds : site.Finds name r.body v b := ⟨hview, hbody⟩
      obtain ⟨reply, hreply⟩ := exists_replyTo b (hwritable v b hfinds)
      obtain rfl : some reply = answer := by
        rw [run_page, hreply] at hpage
        exact congrArg Prod.fst hpage
      exact ⟨reply, rfl, answers_processed hpost hfinds hpage⟩

/-- Where there is an answer, no transform failed. -/
theorem ne_unwritable_of_answer (hpost : r.PostsTo name) {reply : Reply}
    (h : ((site.respond r).run st).1 = some reply) {v : View} {b : Widget.Body}
    (hfinds : site.Finds name r.body v b) : (site.processed st v b).1 ≠ .error .unwritable := by
  intro hresult
  rw [run_posted _ _ hpost, hfinds.view, hfinds.body] at h
  simp only [run_page, hresult] at h
  cases h

/-- A request for a view whose only column is not in the table, by a name with a blank before
it. -/
def lost : Request := .post "/api/views/%20v" "\x7b\x7d"

theorem lost_postsTo : lost.PostsTo " v" where
  method := rfl
  route := ⟨"%20v", by decide +kernel, by decide +kernel⟩
  json := by decide +kernel
  length := by decide +kernel

/-- The request is refused, after a look at the columns of the table. -/
theorem posted_answers_lost :
    lost.PostsTo " v" ∧ ∃ reply st',
      ((sample [⟨"gone", "gone", true, true, none⟩]).respond lost).run sampleState =
        (some reply, st') ∧
      reply.status = 400 ∧ st'.world.describeCalls = 1 ∧ st'.world.statements = [] ∧
      (sample [⟨"gone", "gone", true, true, none⟩]).Answers sampleState lost " v" reply st' := by
  have hanswer : (((sample [⟨"gone", "gone", true, true, none⟩]).respond lost).run
      sampleState).1.map (·.status) = some 400 := by
    decide +kernel
  have hworld : (((sample [⟨"gone", "gone", true, true, none⟩]).respond lost).run
      sampleState).2.world.describeCalls = 1 := by
    decide +kernel
  have hquiet : (((sample [⟨"gone", "gone", true, true, none⟩]).respond lost).run
      sampleState).2.world.statements = [] := by
    decide +kernel
  generalize hrun : ((sample [⟨"gone", "gone", true, true, none⟩]).respond lost).run sampleState =
    run at hanswer hworld hquiet ⊢
  obtain ⟨answer, st'⟩ := run
  obtain ⟨reply, rfl, hstatus⟩ := Option.map_eq_some_iff.1 hanswer
  obtain ⟨reply', hsame, hanswers⟩ := posted_answers lost_postsTo hrun
    fun v b hfinds => ne_unwritable_of_answer lost_postsTo (congrArg Prod.fst hrun) hfinds
  obtain rfl := Option.some.inj hsame
  exact ⟨lost_postsTo, reply, st', rfl, hstatus, hworld, hquiet, hanswers⟩

/-- A body with text behind its document. -/
def trailing : Request := .post "/api/views/v" "\x7b\x7d x"

/-- A text that is no body as a whole is answered with a page all the same. -/
theorem trailing_answered :
    trailing.PostsTo "v" ∧ ((sample [sampleColumn true]).views.get?
        (Text.trim "v")).isSome = true ∧ ∃ reply,
      (((sample [sampleColumn true]).respond trailing).run sampleState).1 =
        some reply ∧
      reply.status = 200 ∧
      ¬ (reply.status = 422 ↔ ¬ ∃ b, Document.decode Widget.Body.read trailing.body = .ok b) := by
  have hpost : trailing.PostsTo "v" :=
    ⟨rfl, ⟨"v", by decide +kernel, by decide +kernel⟩, by decide +kernel, by decide +kernel⟩
  have hstatus : (((sample [sampleColumn true]).respond trailing).run
      sampleState).1.map (·.status) = some 200 := by
    decide +kernel
  have hbroken : (Document.decode Widget.Body.read trailing.body).toOption.isNone = true := by
    decide +kernel
  have hnone : ¬ ∃ b, Document.decode Widget.Body.read trailing.body = .ok b := by
    rintro ⟨b, hb⟩
    rw [hb] at hbroken
    cases hbroken
  obtain ⟨reply, hreply, hstatus⟩ := Option.map_eq_some_iff.1 hstatus
  refine ⟨hpost, by decide +kernel, reply, hreply, hstatus, fun h => ?_⟩
  have hrefused := h.2 hnone
  rw [hstatus] at hrefused
  cases hrefused

end Http.Site

end GridQuery
