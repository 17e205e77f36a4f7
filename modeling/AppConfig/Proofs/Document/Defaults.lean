import AppConfig.Proofs.Document.Alike

/-! # Defaults written out

* `fill`: an object with a value under a key, its own or a default.
* `withDefaults`: a document with the default written out wherever it would stand in.
* `readDocument_withDefaults`: such a document ends like the one that it is made from, and leaves
  the same diagnostics but for the warnings about defaults.
-/

namespace AppConfig.Document
set_option autoImplicit false
open Outcome
open Fields (present?)

variable {o : Members} {key : String} {default : Json}

/-! ## Objects with their defaults -/

def fill (key : String) (default : Json) (o : Members) : Members :=
  if (present? o key).isSome then o else o.insert key default

def fillEntity (kind : EntityKind) (index : Nat) (o : Members) : Members :=
  fill kind.functionKey (.string (kind.defaultFunction index))
    (fill "identifier" (.string (kind.defaultId index)) o)

def fillNode (o : Members) : Members := modifyEntities fillEntity o

def fillApp (o : Members) : Members :=
  fill "domain_id" (.int 0) (modifyObjects "nodes" (fun _ => fillNode) o)

def withDefaults : Json → Json := Json.mapObject (modifyObjects "apps" fun _ => fillApp)

theorem present?_fill_self (h : default.isNull = false) (o : Members) :
    present? (fill key default o) key = filled true default (present? o key) := by
  unfold fill
  cases hkey : present? o key with
  | none => exact Fields.present?_insert_self h o
  | some v => exact hkey

theorem present?_fill_of_ne {k : String} (h : k ≠ key) (default : Json) (o : Members) :
    present? (fill key default o) k = present? o k := by
  unfold fill
  split
  · rfl
  · exact Fields.present?_insert_of_ne h default o

/-! ## Levels -/

theorem entityAlike_fillEntity (kind : EntityKind) (index : Nat) (o : Members) :
    EntityAlike true kind index o (fillEntity kind index o) := by
  have hkeys : kind.functionKey ≠ "identifier" ∧
      ∀ key ∈ requiredKeys (.entity kind) ++ omittedKeys (.entity kind),
        key ≠ kind.functionKey ∧ key ≠ "identifier" := by
    cases kind with
    | timer => decide
    | endpoint kind => cases kind <;> decide
  obtain ⟨hfunction, hrest⟩ := hkeys
  have hplain : ∀ key ∈ requiredKeys (.entity kind) ++ omittedKeys (.entity kind),
      present? (fillEntity kind index o) key = present? o key := by
    intro key hkey
    obtain ⟨hne, hne'⟩ := hrest key hkey
    rw [fillEntity, present?_fill_of_ne hne, present?_fill_of_ne hne']
  refine ⟨fun key hkey => ?_, fun key hkey => ?_, ?_, ?_⟩
  · exact hplain key (List.mem_append_left _ hkey)
  · exact hplain key (List.mem_append_right _ hkey)
  · rw [fillEntity, present?_fill_of_ne hfunction.symm]
    exact present?_fill_self rfl o
  · rw [fillEntity, present?_fill_self rfl, present?_fill_of_ne hfunction]

theorem nodeAlike_fillNode (o : Members) : NodeAlike true o (fillNode o) := by
  have hplain : ∀ key ∈ nodeKeys,
      present? (fillNode o) key = present? o key :=
    fun key hkey => present?_modifyEntities_of_ne (fun kind => listKey_ne kind key hkey) o
  refine ⟨hplain _ (by decide), hplain _ (by decide), fun kind => ?_, ?_, ?_⟩
  · rw [fillNode, present?_modifyEntities_self]
    exact listAlike_modifyObjects fun _ index inner _ _ => entityAlike_fillEntity kind index inner
  · rw [hplain _ (by decide)]
    exact .same
  · rw [hplain _ (by decide)]
    exact .same

theorem appAlike_fillApp (o : Members) : AppAlike true o (fillApp o) := by
  have hplain : ∀ key, key ≠ "domain_id" → key ≠ "nodes" →
      present? (fillApp o) key = present? o key := by
    intro key hdomain hnodes
    rw [fillApp, present?_fill_of_ne hdomain, modifyObjects,
      Fields.present?_modifyList_of_ne hnodes]
  refine ⟨hplain _ (by decide) (by decide), ?_, hplain _ (by decide) (by decide),
    hplain _ (by decide) (by decide), ?_, ?_⟩
  · rw [fillApp, present?_fill_self rfl, modifyObjects,
      Fields.present?_modifyList_of_ne (by decide)]
  · rw [fillApp, present?_fill_of_ne (by decide)]
    exact listAlike_modifyObjects fun _ _ inner _ _ => nodeAlike_fillNode inner
  · rw [hplain _ (by decide) (by decide)]
    exact listAlike_refl (fun _ _ => trivial) _

theorem rootAlike_withDefaults (o : Members) :
    RootAlike true o (modifyObjects "apps" (fun _ => fillApp) o) := by
  have hplain : ∀ key, key ≠ "apps" →
      present? (modifyObjects "apps" (fun _ => fillApp) o) key = present? o key :=
    fun key happs => Fields.present?_modifyList_of_ne happs _ o
  refine ⟨hplain _ (by decide), hplain _ (by decide), hplain _ (by decide), ?_⟩
  exact listAlike_modifyObjects fun _ _ inner _ _ => appAlike_fillApp inner

/-! ## Documents -/

/-- With its defaults written out a document ends like itself, and leaves no warnings about defaults
but all that it leaves otherwise. -/
theorem readDocument_withDefaults (site : Site) (doc : Json) :
    (readDocument site (withDefaults doc)).result = (readDocument site doc).result ∧
    (readDocument site (withDefaults doc)).journal.diagnostics =
      (readDocument site doc).journal.diagnostics.filter fun d => d.code ≠ .fieldDefaulted := by
  have halike : ObjectAlike (RootAlike true) doc (withDefaults doc) :=
    objectAlike_mapObject fun o _ => rootAlike_withDefaults o
  have hruns : Mirrors true Eq (readDocument site doc) (readDocument site (withDefaults doc)) :=
    mirrors_readDocument halike
  exact ⟨hruns.result_eq, hruns.diagnostics_eq⟩

end AppConfig.Document
