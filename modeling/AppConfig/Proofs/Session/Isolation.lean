import AppConfig.Proofs.Compile.VersionGate
import AppConfig.Proofs.Session.Readers
import AppConfig.Session

/-! # Requests do not disturb each other

* `records_compileText`, `records_compileFile`, `records_loadDocument`: a request on the diagnostics
  of a session does what it does with a journal of its own.
* `Session.Adds f added answer`: a step adds the same to every session, and answers the same.
* `Session.Isolated`: every step on a session answers as it does on an empty one, and adds what it
  leaves there to what the session had before it.
* `Session.isolated_requests`: so for requests of all kinds, and for documents that are built one
  after the other in one request, whatever came before and whether or not it failed.
-/

namespace AppConfig
set_option autoImplicit false

/-! ## Texts and files on the diagnostics of a session -/

theorem validate_diagnostics (p : Plan) : p.validate.journal.diagnostics = [] := by
  rw [p.validate_eq, Plan.checkVersion]
  split <;> rfl

theorem records_decode (text : String) : Records .root (decode text) (Recording.decode text) :=
  .ofExcept rfl (decode_diagnostics text)

theorem records_compileValue (site : Site) (v : Json) :
    Records .root (compileValue site v) (Recording.compileValue site v) := by
  refine (records_readDocument site v).bind fun plan => ?_
  have hvalidate : Records .root plan.validate (Recording.ofExcept plan.validate.result) :=
    .ofExcept rfl (validate_diagnostics plan)
  exact hvalidate.bind fun _ => .pure plan

theorem records_compileText (host : Host) (base : Option Path) (text : String) :
    Records .root (compileText host base text) (Recording.compileText host base text) := by
  refine (records_decode text).bind fun v => ?_
  exact records_compileValue (host.site base) v

theorem records_expandNoted (home : Option Path) (path : Path) :
    Records .root (expandNoted home path) (Recording.expandNoted home path) := by
  refine (Records.requireHome path home).bind fun _ => ?_
  by_cases h : path.expandHome home = path
  · simp only [h, ne_eq, not_true_eq_false, if_false]
    exact .pure path
  · simp only [h, ne_eq, not_false_eq_true, if_true]
    exact (Records.note_root rfl).bind fun _ => .pure _

theorem records_loadDocument (host : Host) (path : Path) :
    Records .root (loadDocument host path) (Recording.loadDocument host path) := by
  unfold loadDocument Recording.loadDocument
  split
  · exact .fail _
  · refine (records_expandNoted host.home path).bind fun resolved => ?_
    split
    · exact .fail _
    · have hoctets : Records .root (.ofExcept ((host.read resolved).mapError .io))
          (Recording.ofExcept ((host.read resolved).mapError .io)) := .ofExcept rfl rfl
      refine hoctets.bind fun octets => ?_
      have htext : Records .root (.ofExcept (textOfOctets resolved octets))
          (Recording.ofExcept (textOfOctets resolved octets)) := .ofExcept rfl rfl
      exact htext.bind fun text => .log_bind (.pure _)

theorem records_compileFile (host : Host) (path : Path) :
    Records .root (compileFile host path) (Recording.compileFile host path) := by
  refine (records_loadDocument host path).bind fun document => ?_
  have hplan := records_compileText host document.baseDir document.text
  -- The journal of its own also holds what is logged at the end; the caller's has no such part.
  have hlogged := hplan.bind (f := fun plan => Outcome.log (.compiled document.path
    plan.summary.display) >>= fun _ => pure plan) fun plan => .log_bind (.pure plan)
  rwa [bind_pure] at hlogged

/-! ## Steps that only add -/

namespace Session

variable {α ρ β : Type}

/-- A step that adds the same to every session, and answers the same. -/
def Adds (f : Session → ρ → Session × β) (added : ρ → Diagnostics) (answer : ρ → β) : Prop :=
  ∀ s r, f s r = (⟨s.diagnostics ++ added r⟩, answer r)

section Adds
variable {f : Session → ρ → Session × β} {added : ρ → Diagnostics} {answer : ρ → β}

theorem before_cons (f : Session → ρ → Session × β) (s : Session) (r : ρ) (rest : List ρ) (i : Nat) :
    before f s (r :: rest) (i + 1) = before f (f s r).1 rest i := rfl

theorem Adds.before_eq (h : Adds f added answer) (s : Session) (rs : List ρ) (i : Nat) :
    before f s rs i = ⟨s.diagnostics ++ (rs.take i).flatMap added⟩ := by
  induction rs generalizing s i with
  | nil => simp [before]
  | cons r rest ih =>
    cases i with
    | zero => simp [before]
    | succ i =>
      rw [before_cons, h s r, ih, List.take_succ_cons, List.flatMap_cons, List.append_assoc]

theorem Adds.stepwise_answers (h : Adds f added answer) (s : Session) (rs : List ρ) :
    (stepwise f s rs).map Prod.snd = rs.map answer := by
  induction rs generalizing s with
  | nil => rfl
  | cons r rest ih => rw [stepwise, List.map_cons, List.map_cons, h s r, ih]

theorem Adds.performAll (h : Adds f added answer) :
    Adds (performAll f) (fun rs => rs.flatMap added) (fun rs => rs.map answer) := by
  intro s rs
  rw [Session.performAll, h.before_eq, h.stepwise_answers, List.take_length]

theorem getElem?_stepwise {rs : List ρ} {i : Nat} {r : ρ} (s : Session) (hr : rs[i]? = some r) :
    (stepwise f s rs)[i]? = some (f (before f s rs i) r) := by
  induction rs generalizing s i with
  | nil => cases hr
  | cons first rest ih =>
    cases i with
    | zero =>
      obtain rfl := Option.some.inj hr
      rfl
    | succ i => exact ih (f s first).1 hr

/-- Every step answers as it does on an empty session, and adds what it leaves there to what the
session had before it. -/
def Isolated (f : Session → ρ → Session × β) (s : Session) (rs : List ρ) : Prop :=
  before f s rs 0 = s ∧ ∀ i r, rs[i]? = some r → ∃ after result,
    (stepwise f s rs)[i]? = some (after, result) ∧ after = before f s rs (i + 1) ∧
    result = (f .empty r).2 ∧
    after.diagnostics = (before f s rs i).diagnostics ++ (f .empty r).1.diagnostics

theorem Adds.isolated (h : Adds f added answer) (s : Session) (rs : List ρ) : Isolated f s rs := by
  refine ⟨rfl, fun i r hr => ⟨_, _, getElem?_stepwise s hr, ?_, ?_, ?_⟩⟩
  · -- One step more takes one request more.
    have htake : rs.take (i + 1) = rs.take i ++ [r] := by
      rw [List.take_add_one, hr]
      rfl
    rw [before, before, htake, List.foldl_append]
    rfl
  · rw [h _ r, h .empty r]
  · rw [h _ r, h .empty r]
    rfl

end Adds

/-! ## Requests -/

theorem perform_eq {x : Outcome α} {y : Recording α} (h : Records .root x y) (s : Session) :
    s.perform y = (⟨s.diagnostics ++ x.journal.diagnostics⟩, x.result) := by
  rw [perform, h s.diagnostics]
  rfl

theorem adds_build (host : Host) (base : Option Path) : Adds (build host base)
    (fun v => (Document.readDocument (host.site base) v).journal.diagnostics)
    fun v => (Document.readDocument (host.site base) v).result :=
  fun s v => perform_eq (records_readDocument (host.site base) v) s

/-- The plan of a text, seen from the working directory and not validated. -/
def textPlan (host : Host) (text : String) : Outcome Plan :=
  decode text >>= Document.readDocument (host.site none)

theorem adds_readText (host : Host) : Adds (readText host)
    (fun text => (textPlan host text).journal.diagnostics) fun text => (textPlan host text).result := by
  intro s text
  have hplan := (records_decode text).bind (records_readDocument (host.site none))
  exact perform_eq hplan s

/-- What a request adds to the diagnostics. -/
def added (host : Host) : Request → Diagnostics
  | .compile text base => (compileText host base text).journal.diagnostics
  | .compileFile path => (compileFile host path).journal.diagnostics
  | .load path => (loadDocument host path).journal.diagnostics
  | .build base documents =>
    documents.flatMap fun v => (Document.readDocument (host.site base) v).journal.diagnostics
  | .read texts => texts.flatMap fun text => (textPlan host text).journal.diagnostics

def answer (host : Host) : Request → Answer
  | .compile text base => .plan (compileText host base text).result
  | .compileFile path => .plan (compileFile host path).result
  | .load path => .document (loadDocument host path).result
  | .build base documents =>
    .plans (documents.map fun v => (Document.readDocument (host.site base) v).result)
  | .read texts => .plans (texts.map fun text => (textPlan host text).result)

theorem adds_step (host : Host) : Adds (step host) (added host) (answer host) := by
  intro s r
  cases r with
  | compile text base => rw [step, perform_eq (records_compileText host base text) s]; rfl
  | compileFile path => rw [step, perform_eq (records_compileFile host path) s]; rfl
  | load path => rw [step, perform_eq (records_loadDocument host path) s]; rfl
  | build base documents => rw [step, (adds_build host base).performAll s documents]; rfl
  | read texts => rw [step, (adds_readText host).performAll s texts]; rfl

/-- Neither a request nor a document that is built with others sees what came before it. -/
theorem isolated_requests (host : Host) (s : Session) :
    (∀ requests, Isolated (step host) s requests) ∧
      ∀ base documents, Isolated (build host base) s documents :=
  ⟨(adds_step host).isolated s, fun base => (adds_build host base).isolated s⟩

end Session
end AppConfig
