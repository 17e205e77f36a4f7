import AppConfig.Proofs.Document.Faults
import AppConfig.Proofs.Document.Reached
import AppConfig.Proofs.Journal.Hidden

/-! # Which fault of an entity list decides

The list is gone through twice: all its elements are seen to be objects before the first of them is
read.

* `leads_object`: the first element that is no object decides, and nothing of the list has been
  noted by then.
* `entities_of_readDocument`: what a document is refused for if a list of entities that reading
  comes to has an element that cannot be built. Only if all elements are objects is it the first
  such element.
* `exists_masked_entity`: an element that is no object masks a bad one before it.
-/

namespace AppConfig.Document
set_option autoImplicit false
open Outcome
open Fields (present?)

variable {site : Site} {o : Members} {kind : EntityKind} {items before later : List Json}

/-! ## Elements that are no objects -/

theorem asObject_of_not_isObject {v : Json} (hv : ¬ IsObject v) :
    asObject v = .fail (.wrongShape [] "an object") := by
  cases v with
  | object o => exact absurd ⟨o, rfl⟩ hv
  | _ => rfl

/-- The first element that is no object comes before anything is read of the list. -/
theorem leads_object {β : Type} {f : Nat → Members → Outcome β} {v : Json}
    (hlist : present? o kind.listKey = some (.list (before ++ v :: later)))
    (hbefore : ∀ w ∈ before, IsObject w) :
    Leads [] (readEntities o kind f)
      ((asObject v).under (.element kind.listKey before.length)) := by
  have hv : (before ++ v :: later)[before.length]? = some v := by simp
  have hpasses : ∀ i w, i < before.length → (before ++ v :: later)[i]? = some w →
      Passes [] (asObject w) := by
    intro i w hi hw
    rw [List.getElem?_append_left hi] at hw
    obtain ⟨inner, rfl⟩ := hbefore w (List.mem_of_getElem? hw)
    exact ⟨inner, .pure inner⟩
  rw [readEntities, Fields.optionalList_of_present hlist, pure_bind]
  exact (Leads.first _ _).trans (.silent_elements hv hpasses)

/-! ## Where entities fail -/

/-- Below the root there is one fault that names no place. -/
theorem Truthful.exists_location {level : Level} {v : Json} {fault : Fault}
    (h : Truthful site level v fault) (hlevel : level ≠ .root) :
    (∃ l, fault.location? = some l) ∨ IsHomeless site fault := by
  have hholds := h.holds
  cases fault with
  | invalidArgument detail =>
    obtain ⟨hhome, l, raw, -, hnames, hdetail⟩ := hholds
    exact .inr ⟨hhome, raw, hnames, hdetail⟩
  | invalidVersion text => exact absurd hholds.1 hlevel
  | missingField l => exact .inl ⟨l, rfl⟩
  | wrongShape l expected => exact .inl ⟨l, rfl⟩
  | invalidIdentifier l name => exact .inl ⟨l, rfl⟩
  | duplicateIdentifiers l names => exact .inl ⟨l, rfl⟩
  | unsupportedCode l kind n => exact .inl ⟨l, rfl⟩
  | referenceNotFound l path => exact .inl ⟨l, rfl⟩
  | notSupported l feature => exact .inl ⟨l, rfl⟩
  | _ => exact hholds.elim

/-- An entity that is not as the format asks is refused for something inside it, or for want of a
home directory. -/
theorem exists_fault {index : Nat} (h : ¬ WellFormedPart site (.entity kind) o) :
    ∃ fault, (readPart site (.entity kind) index o).result = .error fault ∧
      (fault.IsAt [] ∨ IsHomeless site fault) := by
  have htruthful : FaultsIn (Truthful site (.entity kind) (.object o))
      (readPart site (.entity kind) index o) := by
    cases kind with
    | timer => exact faults_readTimer index o
    | endpoint kind => exact faults_readEndpoint kind index o
  cases hresult : (readPart site (.entity kind) index o).result with
  | ok part => exact absurd (exists_readPart_ok.mp ⟨part, hresult⟩) h
  | error fault =>
    have hplace := (htruthful fault hresult).exists_location (by simp)
    exact ⟨fault, rfl, hplace.imp_left fun ⟨l, hl⟩ => ⟨l, hl⟩⟩

theorem isAt_within {fault : Fault} (l : Location) (h : fault.IsAt []) :
    (fault.within l).IsAt l := by
  obtain ⟨rest, hrest⟩ := h
  refine ⟨rest, ?_⟩
  rw [Fault.within, Fault.location?_relocate, hrest]
  rfl

/-! ## Lists that reading comes to -/

section Lists
variable {earlier : Diagnostics} {path : Location} {a : Fragment}

def entityPlace (path : Location) (kind : EntityKind) (index : Nat) : Location :=
  path ++ [.element kind.listKey index]

/-- What has been left when reading comes behind these elements of a list of entities. -/
def notesBehind (site : Site) (earlier : Diagnostics) (path : Location) (a : Fragment)
    (kind : EntityKind) (before : List Json) : Diagnostics :=
  earlier ++ (a.notesBefore site kind.listKey ++
    itemNotes kind.listKey before (ownNotes (.entity kind))).map (Diagnostic.within path)

theorem refused_of_object {v : Json} (hreached : Reached site o earlier path a)
    (hlevel : a.level = .node) (hpassed : a.Passed site kind.listKey)
    (hlist : present? a.members kind.listKey = some (.list (before ++ v :: later)))
    (hbefore : ∀ w ∈ before, IsObject w) (hv : ¬ IsObject v) :
    Shows (.error (.wrongShape (entityPlace path kind before.length) "an object"))
      (notesBehind site earlier path a kind []) (readDocument site (.object o)) := by
  obtain ⟨level, index, members⟩ := a
  obtain rfl : level = .node := hlevel
  have hleads := hreached.leads_key (find_entities kind) rfl hpassed (leads_object hlist hbefore)
  rw [asObject_of_not_isObject hv, within_under, within_fail] at hleads
  have hshows : Shows _ (notesBehind site earlier path ⟨.node, index, members⟩ kind [] ++ [])
      (readDocument site (.object o)) := hleads _ _ (.fail _)
  rw [List.append_nil] at hshows
  rwa [Fault.relocate, List.append_nil] at hshows

theorem refused_of_entity {bad : Members} (hreached : Reached site o earlier path a)
    (hlevel : a.level = .node) (hpassed : a.Passed site kind.listKey)
    (hlist : present? a.members kind.listKey = some (.list (before ++ .object bad :: later)))
    (hbefore : ∀ w ∈ before, IsWellFormed site (.entity kind) w) (hlater : ∀ w ∈ later, IsObject w)
    {fault : Fault} {left : Diagnostics}
    (hbad : Shows (.error fault) left (readPart site (.entity kind) before.length bad)) :
    Shows (.error (fault.within (entityPlace path kind before.length)))
      (notesBehind site earlier path a kind before ++
        left.map (Diagnostic.within (entityPlace path kind before.length)))
      (readDocument site (.object o)) := by
  have hfirst : (before ++ .object bad :: later).take before.length = before := List.take_left
  have hbeforeObjects : ∀ w ∈ before, IsObject w :=
    fun w hw => (hbefore w hw).imp fun _ h => h.1
  have henters : Enters site a kind.listKey (before ++ .object bad :: later)
      ⟨.entity kind, before.length, bad⟩ := by
    refine ⟨?_, hpassed, hlist, by simp, ?_, ?_⟩
    · rw [hlevel]
      exact List.mem_map_of_mem kind.mem_all
    · rwa [hfirst]
    · rintro _ - w hw
      rcases List.mem_append.mp hw with hw | hw
      · exact hbeforeObjects w hw
      · rcases List.mem_cons.mp hw with rfl | hw
        · exact ⟨bad, rfl⟩
        · exact hlater w hw
  have hshows := (hreached.element henters).leads _ _ (hbad.within_error _)
  rwa [Enters.notes, hfirst] at hshows

/-- A list of entities that reading comes to is gone through twice. If an element is no object, the
document is refused for the first such element, and no diagnostic of the list is left. If all
elements are objects, it is refused for the first that cannot be built, at or below it, and the
diagnostics of the elements before it are left. What an element is refused for names a place unless
it is the want of a home directory. -/
theorem entities_of_readDocument (hreached : Reached site o earlier path a)
    (hlevel : a.level = .node) (hpassed : a.Passed site kind.listKey)
    (hlist : present? a.members kind.listKey = some (.list items)) :
    (∀ before v later, items = before ++ v :: later →
      (∀ w ∈ before, IsObject w) → ¬ IsObject v →
      Shows (.error (.wrongShape (entityPlace path kind before.length) "an object"))
        (notesBehind site earlier path a kind []) (readDocument site (.object o))) ∧
    (∀ before bad later, items = before ++ .object bad :: later →
      (∀ w ∈ before, IsWellFormed site (.entity kind) w) → (∀ w ∈ later, IsObject w) →
      ¬ WellFormedPart site (.entity kind) bad →
      ∃ fault left, Shows (.error fault) left (readPart site (.entity kind) before.length bad) ∧
        ((fault.within (entityPlace path kind before.length)).IsAt
          (entityPlace path kind before.length) ∨ IsHomeless site fault) ∧
        Shows (.error (fault.within (entityPlace path kind before.length)))
          (notesBehind site earlier path a kind before ++
            left.map (Diagnostic.within (entityPlace path kind before.length)))
          (readDocument site (.object o))) := by
  constructor
  · rintro before v later rfl hbefore hv
    exact refused_of_object hreached hlevel hpassed hlist hbefore hv
  · rintro before bad later rfl hbefore hlater hbad
    obtain ⟨fault, hfault, hat⟩ := exists_fault hbad
    have hshows : Shows (.error fault) _ (readPart site (.entity kind) before.length bad) :=
      ⟨hfault, rfl⟩
    exact ⟨fault, _, hshows, hat.imp_left (isAt_within _),
      refused_of_entity hreached hlevel hpassed hlist hbefore hlater hshows⟩

end Lists

/-! ## A masked timer -/

def steadyTimer : Members := [("type", .int 0), ("period", .int 10)]

def strayTimer : Members := [("type", .int 9), ("period", .int 10)]

/-- The second timer cannot be built, and the third is no object. -/
def maskedNode : Members := timersNode [.object steadyTimer, .object strayTimer, .int 7]

theorem wellFormed_steadyTimer : WellFormedPart emptySite (.entity .timer) steadyTimer := by
  have hread : ∃ part, (readPart emptySite (.entity .timer) 0 steadyTimer).result = .ok part :=
    ⟨_, rfl⟩
  exact exists_readPart_ok.mp hread

theorem not_wellFormed_strayTimer : ¬ WellFormedPart emptySite (.entity .timer) strayTimer := by
  intro h
  obtain ⟨part, hpart⟩ := exists_readPart_ok.mpr h
  have hrefused : (readPart emptySite (.entity .timer) 1 strayTimer).result =
      .error (.unsupportedCode [.field "type"] "timer type" 9) := rfl
  rw [hrefused] at hpart
  cases hpart

theorem entities_of_maskedNode :
    Shows (.error (.wrongShape (entityPlace lonePath .timer 2) "an object"))
      (loneNotes ++ [.omitted (lonePath ++ [.field "qos_config"])])
      (readDocument emptySite (.object (loneDocument maskedNode))) ∧
    ∃ fault, fault.IsAt (entityPlace lonePath .timer 1) ∧
      (readDocument emptySite (.object (loneDocument
        (timersNode [.object steadyTimer, .object strayTimer])))).result = .error fault := by
  have hthree := entities_of_readDocument (reached_loneNode emptySite maskedNode) rfl
    (passed_timersNode _ _) rfl
  have htwo := entities_of_readDocument (reached_loneNode emptySite _) rfl
    (passed_timersNode _ [.object steadyTimer, .object strayTimer]) rfl
  have hsteady : ∀ w ∈ [Json.object steadyTimer], IsWellFormed emptySite (.entity .timer) w := by
    intro w hw
    obtain rfl := List.mem_singleton.mp hw
    exact ⟨steadyTimer, rfl, wellFormed_steadyTimer⟩
  constructor
  · refine hthree.1 [.object steadyTimer, .object strayTimer] (.int 7) [] rfl ?_ ?_
    · simp [IsObject]
    · rintro ⟨o, ho⟩
      cases ho
  · obtain ⟨fault, left, -, hplace, hshows⟩ := htwo.2 [.object steadyTimer] strayTimer [] rfl
      hsteady (by simp) not_wellFormed_strayTimer
    have hat := hplace.resolve_right fun h => Option.some_ne_none _ h.1
    exact ⟨_, hat, hshows.result⟩

/-- The second timer is the first that cannot be built. But the document is not refused for it, and
the name that the first timer leaves out is not noted. -/
theorem exists_masked_entity :
    Reached emptySite (loneDocument maskedNode) loneNotes lonePath ⟨.node, 0, maskedNode⟩ ∧
    Fragment.Passed emptySite ⟨.node, 0, maskedNode⟩ "timers" ∧
    present? maskedNode "timers" =
      some (.list [.object steadyTimer, .object strayTimer, .int 7]) ∧
    WellFormedPart emptySite (.entity .timer) steadyTimer ∧
    ¬ WellFormedPart emptySite (.entity .timer) strayTimer ∧
    (∀ fault, (readDocument emptySite (.object (loneDocument maskedNode))).result = .error fault →
      ¬ fault.IsAt (entityPlace lonePath .timer 1)) ∧
    ∀ d ∈ (readDocument emptySite (.object (loneDocument maskedNode))).journal.diagnostics,
      d.location ≠ entityPlace lonePath .timer 0 ++ [.field "identifier"] := by
  refine ⟨reached_loneNode _ _, passed_timersNode _ _, rfl, wellFormed_steadyTimer,
    not_wellFormed_strayTimer, ?_, ?_⟩
  · rintro fault hfault ⟨rest, hrest⟩
    have hresult : (readDocument emptySite (.object (loneDocument maskedNode))).result =
        .error (.wrongShape (entityPlace lonePath .timer 2) "an object") := rfl
    obtain rfl := Except.error.inj (hresult.symm.trans hfault)
    simp [Fault.location?, entityPlace] at hrest
  · decide

end AppConfig.Document
