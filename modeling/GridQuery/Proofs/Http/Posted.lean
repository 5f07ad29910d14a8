import GridQuery.Backend.Memory
import GridQuery.Http.Server
import GridQuery.Proofs.Engine.Stage

/-!
# Posted requests

What the interface makes of a text that is posted as JSON to the page of a name: the name is looked
up first, then the text is read, then the request that it makes of the view is processed.

Main results: `Site.run_posted` and `Site.run_page`, the stages of the answer put together.
-/

namespace GridQuery

variable {σ : Type}

/-- The state with more notices. -/
def ServiceState.noting (st : ServiceState σ) (ns : List Notice) : ServiceState σ :=
  { st with notices := st.notices ++ ns }

namespace Http

/-- The request posts a text as JSON, of a length that is accepted, to the page of a name. -/
structure Request.PostsTo (r : Request) (name : String) : Prop where
  method : r.method = "POST"
  route : ∃ segment, routeOf? r.target = some (.page segment) ∧ decodeSegment segment = some name
  json : (r.contentType.map saysJson).getD false = true
  length : r.body.utf8ByteSize ≤ maxBodySize

/-- What is read at the start of a posted text. -/
def bodyAtStart (text : String) : Except DecodeFault Widget.Body :=
  Document.decodeStart Widget.Body.read text

namespace Site

/-- The processing of the request that a body makes of a view, after the body's own diagnostics
are reported. -/
def processed (site : Site σ) (st : ServiceState σ) (v : View) (b : Widget.Body) :
    Except ProcessFault Outcome × ServiceState σ :=
  (site.service.process (b.request v site.maxPageSize)).run
    (st.noting (Notice.ofDiagnostics (Diagnostics.collect b.findings)))

/-- The reply to what processing ends in. -/
def replyTo (b : Widget.Body) : Except ProcessFault Outcome → Option Reply
  | .ok outcome =>
    some ⟨200, some ((Diagnostics.collect b.findings).extend outcome.diagnostics).size,
      .json outcome.response.json⟩
  | .error (.failure f) => some (.failure (statusOf f) f.message)
  | .error .unwritable => none

/-- What is reported of it. -/
def replyNotices : Except ProcessFault Outcome → List Notice
  | .error (.failure f) => [if 500 ≤ statusOf f then .requestFailed f else .requestRejected f]
  | _ => []

variable (site : Site σ) (st : ServiceState σ)

/-- **A page is what processing the body's request ends in.** -/
theorem run_page (v : View) (b : Widget.Body) :
    (site.page v b).run st =
      (replyTo b (site.processed st v b).1,
        (site.processed st v b).2.noting (replyNotices (site.processed st v b).1)) := by
  simp only [page, processed, Serving.run_bind, Serving.run_notify, ServiceState.noting]
  obtain ⟨result, st'⟩ := (site.service.process (b.request v site.maxPageSize)).run _
  cases result with
  | ok outcome => simp only [Serving.run_pure, replyTo, replyNotices, List.append_nil]
  | error fault =>
    cases fault with
    | failure f => rfl
    | unwritable => simp only [Serving.run_pure, replyTo, replyNotices, List.append_nil]

variable {site} in
/-- A posted request is answered for its name. -/
theorem respond_of_postsTo {r : Request} {name : String} (h : r.PostsTo name) :
    site.respond r = site.query name r := by
  obtain ⟨segment, hroute, hname⟩ := h.route
  simp only [respond, hroute, h.method, hname, ne_eq, not_true_eq_false, if_false]

/-- **The view is looked up before the text is read.** -/
theorem run_posted {r : Request} {name : String} (h : r.PostsTo name) :
    (site.respond r).run st =
      match site.views.get? (Text.trim name), bodyAtStart r.body with
      | none, _ =>
        (some (.failure 404 ("View '" ++ Text.trim name ++ "' is not configured")), st)
      | some _, .error f => (some (.failure 422 (BodyFault.ofDecode f).message), st)
      | some v, .ok b => (site.page v b).run st := by
  have hread : readBody r = (bodyAtStart r.body).mapError BodyFault.ofDecode := by
    rw [readBody, h.json, if_neg (by decide), if_neg (Nat.not_lt.2 h.length), bodyAtStart]
  rw [respond_of_postsTo h, query, viewOf]
  cases site.views.get? (Text.trim name) with
  | none => rfl
  | some v =>
    simp only [hread]
    cases bodyAtStart r.body <;> rfl

end Site

/-! ## Samples -/

/-- A text that is posted as JSON. -/
def Request.post (target text : String) : Request :=
  ⟨"POST", target, some "application/json", text⟩

/-- A column of the sample table. -/
def sampleColumn (sortable : Bool) : Column := ⟨"a", "a", sortable, true, none⟩

/-- A view of the sample table. -/
def sampleView (columns : List Column) : View := ⟨"v", "t", columns, .none⟩

/-- A site with one view. -/
def Site.sample (columns : List Column) : Site Memory :=
  ⟨⟨Memory.backend .postgres, none⟩, ⟨[sampleView columns]⟩, 10⟩

/-- The table has one column, and no schema is cached. -/
def sampleState : ServiceState Memory :=
  ⟨none, { Memory.ofDialect .postgres with tables := [("t", [⟨"a", "text", .text⟩])] }, []⟩

end Http

end GridQuery
