import AppConfig.Journal

/-! # Reading versions

* `Version.ofText`: the version that a text writes. The text is refused if a group is empty, holds
  anything but digits or is too large; groups after the fourth are dropped with a warning.
-/

namespace AppConfig.Version
set_option autoImplicit false

/-- Groups after the fourth are dropped. -/
def discarded (v : Version) (extra : Nat) : Diagnostic :=
  ⟨.root, .versionGroupsDiscarded,
    s!"version groups after {v.display} discarded ({extra} extra)"⟩

/-- The version that a text writes. -/
def ofText (text : String) : Outcome Version :=
  match groups? text.toList with
  | none => .fail (.invalidVersion text)
  | some groups => do
    let v := ofGroups groups
    .log (.versionRead v)
    if groupLimit < groups.length then .note (discarded v (groups.length - groupLimit))
    return v

end AppConfig.Version
