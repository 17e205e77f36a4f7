import AppConfig.Proofs.Document.Faults
import AppConfig.Proofs.Document.Reached

/-! # Codes that are not declared

* `codeFields`: the keys of an object that hold codes, each with its enumeration.
* `shows_code`: a code that is not declared is refused as such if a signed word of 64 bits holds it,
  and as no integer otherwise.
* `undeclared_of_readDocument`: so at every such key of every object that reading comes to.
-/

namespace AppConfig.Document
set_option autoImplicit false
open Outcome
open Fields (present?)

variable {site : Site} {o : Members} {key kind : String} {n : Int} {codes : List Int}

/-- The keys of an object that hold codes, with the names of their enumerations in messages. -/
def codeFields : Level → List (String × String)
  | .root => [("platform", "platform"), ("lang", "lang")]
  | .app => [("protocol_type", "protocol_type")]
  | .node | .module => []
  | .entity .timer => [("type", "timer type")]
  | .entity (.endpoint _) => [("msg_type", "msg_type")]

/-- What a code that is not declared is refused for. -/
def undeclaredFault (l : Location) (kind : String) (n : Int) : Fault :=
  if IsSigned64 n then .unsupportedCode l kind n else .wrongShape l Shape.integer.describe

theorem undeclaredFault_within (path l : Location) (kind : String) (n : Int) :
    (undeclaredFault l kind n).within path = undeclaredFault (path ++ l) kind n := by
  unfold undeclaredFault
  split <;> rfl

/-! ## One field -/

theorem shows_integer (hn : present? o key = some (.int n)) (hsigned : IsSigned64 n) :
    Shows (.ok n) [] (Fields.integer o key) :=
  ⟨Fields.integer_result_ok.mpr ⟨hn, hsigned⟩, congrArg _ (Fields.integer_journal o key)⟩

theorem shows_no_integer (hn : present? o key = some (.int n)) (hsigned : ¬ IsSigned64 n) :
    Shows (.error (.wrongShape [.field key] Shape.integer.describe)) [] (Fields.integer o key) := by
  rw [Fields.integer, Fields.require, hn, pure_bind, Fields.asWord, int64?, if_neg hsigned]
  exact .fail _

theorem shows_code {α : Type} [Coded α] [LawfulCoded α]
    (hcodes : (Coded.kind α, codes) ∈ declaredCodes) (hn : present? o key = some (.int n))
    (hundeclared : n ∉ codes) :
    Shows (.error (undeclaredFault [.field key] (Coded.kind α) n)) [] (Fields.code α o key) := by
  have hnone : Coded.ofCode? α n = none := by
    rw [Option.eq_none_iff_forall_ne_some]
    intro a ha
    exact hundeclared ((Coded.mem_declared hcodes n).mpr ⟨a, Coded.ofCode?_eq_some.mp ha⟩)
  unfold undeclaredFault
  split
  · next hsigned =>
    refine (shows_integer hn hsigned).silent_bind ?_
    rw [hnone]
    exact .fail _
  · next hsigned => exact (shows_no_integer hn hsigned).stop _

theorem find_code (site : Site) {a : Fragment} (h : (key, kind) ∈ codeFields a.level) :
    ∃ (α : Type) (_ : Coded α) (_ : LawfulCoded α), kind = Coded.kind α ∧
      (a.checks site).find? (·.key = key) = some (.code a.members key α) := by
  obtain ⟨level, index, o⟩ := a
  cases level with
  | root =>
    have hcases : key = "platform" ∧ kind = "platform" ∨ key = "lang" ∧ kind = "lang" := by
      simpa [codeFields] using h
    rcases hcases with ⟨rfl, rfl⟩ | ⟨rfl, rfl⟩
    · exact ⟨Platform, inferInstance, inferInstance, rfl, rfl⟩
    · exact ⟨Language, inferInstance, inferInstance, rfl, rfl⟩
  | app =>
    obtain ⟨rfl, rfl⟩ : key = "protocol_type" ∧ kind = "protocol_type" := by
      simpa [codeFields] using h
    exact ⟨Protocol, inferInstance, inferInstance, rfl, rfl⟩
  | node => cases h
  | module => cases h
  | entity entity =>
    cases entity with
    | timer =>
      obtain ⟨rfl, rfl⟩ : key = "type" ∧ kind = "timer type" := by simpa [codeFields] using h
      exact ⟨TimerClock, inferInstance, inferInstance, rfl, rfl⟩
    | endpoint endpoint =>
      obtain ⟨rfl, rfl⟩ : key = "msg_type" ∧ kind = "msg_type" := by simpa [codeFields] using h
      refine ⟨MessageFormat, inferInstance, inferInstance, rfl, ?_⟩
      cases endpoint <;> rfl

/-! ## Documents -/

/-- An integer that is no declared code, at a key for codes of an object that reading comes to, is
what the document is refused for: as a code that is not supported if a signed word of 64 bits holds
it, and as no integer at all if none does. -/
theorem undeclared_of_readDocument {earlier : Diagnostics} {path : Location} {a : Fragment}
    (hreached : Reached site o earlier path a) (hfield : (key, kind) ∈ codeFields a.level)
    (hpassed : a.Passed site key) (hn : present? a.members key = some (.int n))
    (hcodes : (kind, codes) ∈ declaredCodes) (hundeclared : n ∉ codes) :
    ∃ fault, (readDocument site (.object o)).result = .error fault ∧
      (readDocument site (.object o)).journal.diagnostics =
        earlier ++ (a.notesBefore site key).map (Diagnostic.within path) ∧
      (IsSigned64 n → fault = .unsupportedCode (path ++ [.field key]) kind n ∧
        fault.code = .invalidArgument) ∧
      (¬ IsSigned64 n → fault = .wrongShape (path ++ [.field key]) "an integer" ∧
        fault.code = .fileInvalid) := by
  obtain ⟨α, _, _, rfl, hfind⟩ := find_code site hfield
  have hcode := (shows_code hcodes hn hundeclared).within_error path
  rw [undeclaredFault_within] at hcode
  have hshows := hreached.leads_key hfind rfl hpassed (.refl _) _ _ hcode
  rw [List.append_nil, List.map_nil, List.append_nil] at hshows
  refine ⟨_, hshows.result, hshows.diagnostics, ?_, ?_⟩
  · intro hsigned
    rw [undeclaredFault, if_pos hsigned]
    exact ⟨rfl, rfl⟩
  · intro hsigned
    rw [undeclaredFault, if_neg hsigned]
    exact ⟨rfl, rfl⟩

/-! ## At the edge of signed words -/

def clockTimer (n : Int) : Members := [("type", .int n)]

def clockDocument (n : Int) : Members := loneDocument (timersNode [.object (clockTimer n)])

theorem reached_clockTimer (site : Site) (n : Int) :
    Reached site (clockDocument n) (loneNotes ++ [.omitted (lonePath ++ [.field "qos_config"])])
      (lonePath ++ [.element "timers" 0]) ⟨.entity .timer, 0, clockTimer n⟩ := by
  have htimer : Enters site ⟨.node, 0, timersNode [.object (clockTimer n)]⟩ "timers"
      [.object (clockTimer n)] ⟨.entity .timer, 0, clockTimer n⟩ := by
    refine ⟨List.mem_map.mpr ⟨.timer, EntityKind.mem_all _, rfl⟩, passed_timersNode _ _, rfl, rfl,
      by simp, ?_⟩
    rintro kind - w hw
    exact ⟨_, List.mem_singleton.mp hw⟩
  exact .element (reached_loneNode site _) htimer

theorem passed_clockTimer (site : Site) (n : Int) :
    Fragment.Passed site ⟨.entity .timer, 0, clockTimer n⟩ "type" := by
  intro c hc
  have hid : c ∈ [Check.symbol (clockTimer n) "identifier" _
    (EntityKind.isValid_defaultId .timer 0)] := hc
  obtain rfl := List.mem_singleton.mp hid
  exact (exists_symbol (EntityKind.isValid_defaultId .timer 0)).mp
    ⟨_, ⟨none, rfl, rfl⟩, EntityKind.isValid_defaultId .timer 0⟩

/-- The least signed word is refused as a code, the first integer above all signed words is not. -/
theorem undeclared_of_clockDocument :
    (∃ fault, (readDocument emptySite (.object (clockDocument (-9223372036854775808)))).result =
      .error fault ∧ fault.code = .invalidArgument) ∧
    ∃ fault, (readDocument emptySite (.object (clockDocument 9223372036854775808))).result =
      .error fault ∧ fault.code = .fileInvalid := by
  have hfield : ("type", "timer type") ∈ codeFields (.entity .timer) := by decide
  have hcodes : ("timer type", [0, 1, 2]) ∈ declaredCodes := by decide
  constructor
  · obtain ⟨fault, hfault, -, hsigned, -⟩ := undeclared_of_readDocument
      (reached_clockTimer emptySite (-9223372036854775808)) hfield (passed_clockTimer _ _) rfl
      hcodes (by decide)
    exact ⟨fault, hfault, (hsigned (by decide)).2⟩
  · obtain ⟨fault, hfault, -, -, hlarge⟩ := undeclared_of_readDocument
      (reached_clockTimer emptySite 9223372036854775808) hfield (passed_clockTimer _ _) rfl
      hcodes (by decide)
    exact ⟨fault, hfault, (hlarge (by decide)).2⟩

/-- A platform that an unsigned word holds and a signed one does not. -/
def distantDocument : Members :=
  [("wolfes_version", .string "1.0.0"), ("platform", .int 9223372036854775808), ("lang", .int 0),
    ("apps", .list [])]

/-- Its platform is an integer and no declared code, but the document is not refused for an
unsupported code. -/
theorem exists_distant_code :
    Reached emptySite distantDocument [] [] ⟨.root, 0, distantDocument⟩ ∧
    Fragment.Passed emptySite ⟨.root, 0, distantDocument⟩ "platform" ∧
    ("platform", "platform") ∈ codeFields .root ∧
    present? distantDocument "platform" = some (.int 9223372036854775808) ∧
    IsUnsigned64 9223372036854775808 ∧
    ("platform", [0, 1, 2, 3]) ∈ declaredCodes ∧ (9223372036854775808 : Int) ∉ [0, 1, 2, 3] ∧
    (readDocument emptySite (.object distantDocument)).result =
      .error (.wrongShape [.field "platform"] "an integer") ∧
    (readDocument emptySite (.object distantDocument)).result ≠
      .error (.unsupportedCode [.field "platform"] "platform" 9223372036854775808) := by
  have hresult : (readDocument emptySite (.object distantDocument)).result =
      .error (.wrongShape [.field "platform"] "an integer") := rfl
  refine ⟨.root, ?_, by decide, rfl, by decide, by decide, by decide, hresult, ?_⟩
  · intro c hc
    have hversion : c ∈ [Check.version distantDocument] := hc
    obtain rfl := List.mem_singleton.mp hversion
    exact ⟨_, rfl, "1.0.0", _, rfl, rfl⟩
  · intro h
    rw [hresult] at h
    cases h

end AppConfig.Document
