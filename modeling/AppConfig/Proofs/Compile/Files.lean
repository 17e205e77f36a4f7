import AppConfig.Compile
import AppConfig.Proofs.Files.Home
import AppConfig.Proofs.Journal.Shown
import AppConfig.Proofs.Text.Utf8

/-! # A file is compiled as its text is

* `Host.expand`: a path with the home directory in place of a leading `~`; `homeNotes`: the
  diagnostic of a path that this changes.
* `directoryOf`: the directory of a path, if its parent is not empty.
* `IsGoodPath`: a path at which a file is looked for; `HasFile`: one is there.
* `AgreesWithText`: what becomes of the file at a path, case by case. It is compiled as its text if
  it has one.
* `agreesWithText_compileFile`: this is what becomes of it.
-/

namespace AppConfig
set_option autoImplicit false
open Outcome
open Text.Utf8 (encode)

/-! ## Paths -/

def Host.expand (host : Host) (path : Path) : Path := path.expandHome host.home

/-- The diagnostic of a path that the home directory changes. -/
def homeNotes (host : Host) (path : Path) : Diagnostics :=
  if host.expand path = path then []
  else [⟨.root, .homeExpanded, s!"expanded \"{path.text}\" to {(host.expand path).text}"⟩]

def directoryOf (path : Path) : Option Path := path.parent?.filter fun dir => !dir.isEmpty

theorem Path.length_chars (path : Path) : path.chars.length = path.text.length :=
  String.length_toList

/-- The path has as many characters as it has to have, and if it stands for one in the home
directory, there is a home directory. -/
structure IsGoodPath (host : Host) (path : Path) : Prop where
  long : 4 ≤ path.text.length
  home : path.NamesHome → host.home ≠ none

/-- There is a file at the path. -/
structure HasFile (host : Host) (path : Path) : Prop extends IsGoodPath host path where
  present : host.isPresent (host.expand path) = true

/-- What becomes of the file at a path. -/
structure AgreesWithText (host : Host) (path : Path) : Prop where
  short : path.text.length < 4 → ∃ detail,
    Shows (.error (.invalidArgument detail)) [] (compileFile host path)
  homeless : 4 ≤ path.text.length → path.NamesHome → host.home = none →
    Shows (.error (.noHome path)) [] (compileFile host path)
  absent : IsGoodPath host path → host.isPresent (host.expand path) = false →
    Shows (.error (.fileNotFound (host.expand path))) (homeNotes host path) (compileFile host path)
  unreadable : HasFile host path → ∀ fault, host.read (host.expand path) = .error fault →
    Shows (.error (.io fault)) (homeNotes host path) (compileFile host path)
  noText : HasFile host path → ∀ octets, host.read (host.expand path) = .ok octets →
    (∀ text : String, encode text.toList = octets → text.length < 2) → ∃ detail,
      Shows (.error (.fileInvalid detail)) (homeNotes host path) (compileFile host path)
  text : HasFile host path → ∀ text : String,
    host.read (host.expand path) = .ok (encode text.toList) → 2 ≤ text.length →
      Shows (compileText host (directoryOf (host.expand path)) text).result
        (homeNotes host path ++
          (compileText host (directoryOf (host.expand path)) text).journal.diagnostics)
        (compileFile host path)

/-! ## Texts of octets -/

section Octets
variable {path : Path} {octets : List UInt8} {text : String}

theorem textOfOctets_encode (h : 2 ≤ text.length) :
    textOfOctets path (encode text.toList) = .ok text := by
  have hlong : ¬ text.toList.length < minTextLength := by
    rw [String.length_toList]
    exact Nat.not_lt.mpr h
  rw [textOfOctets, Text.Utf8.decode_eq_ok.mpr rfl]
  simp only [hlong, if_false, String.ofList_toList]

theorem textOfOctets_of_noText (path : Path)
    (h : ∀ text : String, encode text.toList = octets → text.length < 2) :
    ∃ detail, textOfOctets path octets = .error (.fileInvalid detail) := by
  unfold textOfOctets
  cases hdecode : Text.Utf8.decode octets with
  | error m => exact ⟨_, rfl⟩
  | ok chars =>
    have hoctets : encode (String.ofList chars).toList = octets := by
      rw [String.toList_ofList]
      exact Text.Utf8.decode_eq_ok.mp hdecode
    have hshort : chars.length < minTextLength := by
      have hlength := h _ hoctets
      rwa [String.length_ofList] at hlength
    exact ⟨_, if_pos hshort⟩

end Octets

/-! ## Reading a file -/

/-- What is done past the length of the path and the home directory. -/
def loadAt (host : Host) (resolved : Path) : Outcome LoadedDocument :=
  if !host.isPresent resolved then .fail (.fileNotFound resolved)
  else do
    let octets ← .ofExcept ((host.read resolved).mapError .io)
    let text ← .ofExcept (textOfOctets resolved octets)
    .log (.fileRead octets.length resolved)
    return { path := resolved, text }

section Reading
variable {host : Host} {path : Path} {octets : List UInt8} {text : String}

theorem loadDocument_of_long (h : 4 ≤ path.text.length) :
    loadDocument host path = expandNoted host.home path >>= loadAt host := by
  have hlong : ¬ path.chars.length < minPathLength := by
    rw [path.length_chars]
    exact Nat.not_lt.mpr h
  rw [loadDocument, if_neg hlong]
  rfl

theorem shows_expandNoted (h : path.NamesHome → host.home ≠ none) :
    Shows (.ok (host.expand path)) (homeNotes host path) (expandNoted host.home path) := by
  unfold expandNoted homeNotes Host.expand
  rw [Path.requireHome_eq_ok.mpr h]
  refine (Shows.ofExcept (.ok ())).silent_bind ?_
  by_cases hsame : path.expandHome host.home = path
  · simp only [hsame, ne_eq, not_true_eq_false, if_false, if_true]
    exact ⟨rfl, rfl⟩
  · simp only [hsame, ne_eq, not_false_eq_true, if_false, if_true]
    exact ⟨rfl, rfl⟩

theorem shows_expandNoted_homeless (hnames : path.NamesHome) (h : host.home = none) :
    Shows (.error (.noHome path)) [] (expandNoted host.home path) := by
  rw [expandNoted, Path.requireHome_eq_error.mpr ⟨hnames, h, rfl⟩]
  exact (Shows.ofExcept _).stop _

/-- The rest of the reading, once there is something at the path. -/
theorem loadAt_of_present (h : host.isPresent path = true) : loadAt host path =
    Outcome.ofExcept ((host.read path).mapError .io) >>= fun octets =>
      Outcome.ofExcept (textOfOctets path octets) >>= fun text =>
        Outcome.log (.fileRead octets.length path) >>= fun _ => pure ⟨path, text⟩ := by
  rw [loadAt, h]
  rfl

theorem shows_loadAt_absent (h : host.isPresent path = false) :
    Shows (.error (.fileNotFound path)) [] (loadAt host path) := by
  rw [loadAt, h]
  exact .fail _

theorem shows_loadAt_unreadable (h : host.isPresent path = true) {fault : IoFault}
    (hread : host.read path = .error fault) :
    Shows (.error (.io fault)) [] (loadAt host path) := by
  rw [loadAt_of_present h, hread]
  exact Shows.stop (.ofExcept _) _

theorem shows_loadAt_of_text (h : host.isPresent path = true) (hread : host.read path = .ok octets) :
    Shows ((textOfOctets path octets).map (⟨path, ·⟩)) [] (loadAt host path) := by
  rw [loadAt_of_present h, hread]
  exact Shows.silent_bind (.ofExcept _) ((Shows.ofExcept _).told _ _)

/-! ## Compiling a file -/

theorem shows_compileFile_error (h : IsGoodPath host path) {fault : Fault}
    (hload : Shows (.error fault) [] (loadAt host (host.expand path))) :
    Shows (.error fault) (homeNotes host path) (compileFile host path) := by
  have hdocument := (shows_expandNoted h.home).bind hload
  rw [List.append_nil, ← loadDocument_of_long h.long] at hdocument
  exact hdocument.stop _

theorem shows_compileFile_ok (h : IsGoodPath host path)
    (hload : Shows (.ok ⟨host.expand path, text⟩) [] (loadAt host (host.expand path))) :
    Shows (compileText host (directoryOf (host.expand path)) text).result
      (homeNotes host path ++
        (compileText host (directoryOf (host.expand path)) text).journal.diagnostics)
      (compileFile host path) := by
  have hdocument := (shows_expandNoted h.home).bind hload
  rw [List.append_nil, ← loadDocument_of_long h.long] at hdocument
  have hplan := (Shows.self (compileText host (directoryOf (host.expand path)) text)).told
    (fun plan => .compiled (host.expand path) plan.summary.display) id
  rw [Except.map_id] at hplan
  exact hdocument.bind hplan

/-- A file that can be read and has a text is compiled as the text, seen from its directory. What
else becomes of a file is told by the first thing that is wrong with it. -/
theorem agreesWithText_compileFile (host : Host) (path : Path) : AgreesWithText host path where
  short h := by
    have hshort : path.chars.length < minPathLength := path.length_chars ▸ h
    have hload : loadDocument host path =
        .fail (.invalidArgument s!"config file path \"{path.text}\" is too short") := if_pos hshort
    rw [compileFile, hload]
    exact ⟨_, (Shows.fail _).stop _⟩
  homeless hlong hnames hnone := by
    have hload := (shows_expandNoted_homeless hnames hnone).stop (loadAt host)
    rw [← loadDocument_of_long hlong] at hload
    exact hload.stop _
  absent h habsent := shows_compileFile_error h (shows_loadAt_absent habsent)
  unreadable h fault hread :=
    shows_compileFile_error h.toIsGoodPath (shows_loadAt_unreadable h.present hread)
  noText h octets hread hnone := by
    obtain ⟨detail, hdetail⟩ := textOfOctets_of_noText (host.expand path) hnone
    have hload := shows_loadAt_of_text h.present hread
    rw [hdetail] at hload
    exact ⟨detail, shows_compileFile_error h.toIsGoodPath hload⟩
  text h text hread hlength := by
    have hload := shows_loadAt_of_text h.present hread
    rw [textOfOctets_encode hlength] at hload
    exact shows_compileFile_ok h.toIsGoodPath hload

end Reading

/-! ## A file in the home directory

Its text is that of an object without members. -/

def homeHost : Host where
  home := some ⟨"/home/user"⟩
  isPresent path := path = ⟨"/home/user/a.json"⟩
  read _ := .ok [0x7B, 0x7D]

theorem agreesWithText_homeHost : HasFile homeHost ⟨"~/a.json"⟩ ∧
    homeNotes homeHost ⟨"~/a.json"⟩ ≠ [] ∧
    Shows (compileText homeHost (some ⟨"/home/user"⟩) "\x7b\x7d").result
      (homeNotes homeHost ⟨"~/a.json"⟩ ++
        (compileText homeHost (some ⟨"/home/user"⟩) "\x7b\x7d").journal.diagnostics)
      (compileFile homeHost ⟨"~/a.json"⟩) := by
  have hexpand : homeHost.expand ⟨"~/a.json"⟩ = ⟨"/home/user/a.json"⟩ := rfl
  have hdirectory : directoryOf ⟨"/home/user/a.json"⟩ = some ⟨"/home/user"⟩ := rfl
  have hfile : HasFile homeHost ⟨"~/a.json"⟩ :=
    ⟨⟨by decide, fun _ => Option.some_ne_none _⟩, by rw [hexpand]; rfl⟩
  have hchanged : homeNotes homeHost ⟨"~/a.json"⟩ ≠ [] := by
    rw [homeNotes, hexpand, if_neg (by decide)]
    exact List.cons_ne_nil _ _
  have hshown := (agreesWithText_compileFile homeHost ⟨"~/a.json"⟩).text hfile "\x7b\x7d" rfl
    (by decide)
  rw [hexpand, hdirectory] at hshown
  exact ⟨hfile, hchanged, hshown⟩

end AppConfig
