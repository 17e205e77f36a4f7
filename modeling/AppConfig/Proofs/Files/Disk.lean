import AppConfig.Files.Disk
import AppConfig.Proofs.Files.Home

/-! # What becomes of a disk

* `Disk.Enters`: where one name leads; `Disk.Leads`: where names in a row lead.
* `Disk.Keeps`: a disk has all that another one has, so paths still lead where they led.
* `Disk.Grown`: directories have been made and files have been written, at places that some paths
  lead to, and nothing else has happened. `Grown.makeDir`, `Grown.writeFile`.
-/

namespace AppConfig.Disk
set_option autoImplicit false

variable {d d' d'' : Disk} {place q r : List String} {content : Content} {name : String}
  {steps steps' : List String} {p : Path}

theorem bind_eq_ok {ε α β : Type} {x : Except ε α} {f : α → Except ε β} {b : β} :
    x >>= f = .ok b ↔ ∃ a, x = .ok a ∧ f a = .ok b := by
  cases x with
  | error e => simp [bind, Except.bind]
  | ok a => simp [bind, Except.bind]

/-! ## What stands where -/

theorem lookup_filter (place q : List String) (entries : List (List String × Content)) :
    (entries.filter fun e => e.1 ≠ place).lookup q =
      if q = place then none else entries.lookup q := by
  induction entries with
  | nil => simp
  | cons e rest ih =>
    obtain ⟨key, content⟩ := e
    by_cases hkey : key = place
    · subst hkey
      rw [List.filter_cons_of_neg (by simp), ih]
      by_cases hq : q = key
      · rw [if_pos hq, if_pos hq]
      · rw [if_neg hq, if_neg hq, List.lookup_cons, beq_false_of_ne hq]
    · rw [List.filter_cons_of_pos (by simp [hkey]), List.lookup_cons, List.lookup_cons, ih]
      by_cases hq : q = key
      · rw [if_neg (hq ▸ hkey), if_neg (hq ▸ hkey)]
      · rw [beq_false_of_ne hq]

theorem at?_put (h : place ≠ []) :
    (d.put place content).at? q = if q = place then some content else d.at? q := by
  unfold at? put
  by_cases hq : q = []
  · rw [if_pos (List.isEmpty_iff.mpr hq), if_neg (hq ▸ h.symm), if_pos (List.isEmpty_iff.mpr hq)]
  · have hempty : ¬ q.isEmpty = true := fun h => hq (List.isEmpty_iff.mp h)
    rw [if_neg hempty, if_neg hempty, List.lookup_append, lookup_filter, List.lookup_cons]
    by_cases hplace : q = place
    · rw [if_pos hplace, if_pos hplace, beq_iff_eq.mpr hplace]
      rfl
    · rw [if_neg hplace, if_neg hplace, beq_false_of_ne hplace]
      exact Option.or_none

/-! ## One name -/

/-- A name that leads further in. -/
structure IsProper (name : String) : Prop where
  notIdle : ¬ (name = "" ∨ name = ".")
  notUp : name ≠ ".."
  short : name.utf8ByteSize ≤ nameLimit

/-- Where a name leads from a directory. -/
inductive Enters (d : Disk) (place : List String) : String → List String → Prop
  | idle {name : String} (idle : name = "" ∨ name = ".") : Enters d place name place
  | up : Enters d place ".." place.dropLast
  | further {name : String} (proper : IsProper name)
    (present : (d.at? (place ++ [name])).isSome = true) : Enters d place name (place ++ [name])

theorem enter_idle (hplace : d.at? place = some .directory) (h : name = "" ∨ name = ".") :
    d.enter place name = .ok place := by
  simp only [enter, hplace, if_pos h]

theorem enter_up (hplace : d.at? place = some .directory) :
    d.enter place ".." = .ok place.dropLast := by
  simp [enter, hplace]

theorem enter_proper (hplace : d.at? place = some .directory) (h : IsProper name) :
    d.enter place name = if (d.at? (place ++ [name])).isSome then .ok (place ++ [name])
      else .error .notFound := by
  simp only [enter, hplace, if_neg h.notIdle, if_neg h.notUp, if_neg (Nat.not_lt.mpr h.short)]

theorem enter_long (hplace : d.at? place = some .directory) (hidle : ¬ (name = "" ∨ name = "."))
    (hup : name ≠ "..") (h : nameLimit < name.utf8ByteSize) :
    d.enter place name = .error .nameTooLong := by
  simp only [enter, hplace, if_neg hidle, if_neg hup, if_pos h]

theorem at?_of_enter (h : d.enter place name = .ok q) : d.at? place = some .directory := by
  unfold enter at h
  split at h
  · assumption
  · cases h
  · cases h

/-- A name is idle, leads up, is too long, or leads further in. -/
theorem name_cases (name : String) : (name = "" ∨ name = ".") ∨ name = ".." ∨
    (¬ (name = "" ∨ name = ".") ∧ name ≠ ".." ∧ nameLimit < name.utf8ByteSize) ∨
      IsProper name := by
  by_cases hidle : name = "" ∨ name = "."
  · exact .inl hidle
  by_cases hup : name = ".."
  · exact .inr (.inl hup)
  by_cases hlong : nameLimit < name.utf8ByteSize
  · exact .inr (.inr (.inl ⟨hidle, hup, hlong⟩))
  · exact .inr (.inr (.inr ⟨hidle, hup, Nat.not_lt.mp hlong⟩))

theorem enter_eq_ok :
    d.enter place name = .ok q ↔ d.at? place = some .directory ∧ d.Enters place name q := by
  constructor
  · intro h
    have hplace := at?_of_enter h
    refine ⟨hplace, ?_⟩
    rcases name_cases name with hidle | rfl | ⟨hidle, hup, hlong⟩ | hproper
    · obtain rfl := Except.ok.inj ((enter_idle hplace hidle).symm.trans h)
      exact .idle hidle
    · obtain rfl := Except.ok.inj ((enter_up hplace).symm.trans h)
      exact .up
    · cases (enter_long hplace hidle hup hlong).symm.trans h
    · rw [enter_proper hplace hproper] at h
      split at h
      · next hpresent =>
        obtain rfl := Except.ok.inj h
        exact .further hproper hpresent
      · cases h
  · rintro ⟨hplace, henters⟩
    cases henters with
    | idle hidle => exact enter_idle hplace hidle
    | up => exact enter_up hplace
    | further hproper hpresent => rw [enter_proper hplace hproper, if_pos hpresent]

theorem of_enter_notFound (hplace : d.at? place = some .directory)
    (h : d.enter place name = .error .notFound) :
    IsProper name ∧ d.at? (place ++ [name]) = none := by
  rcases name_cases name with hidle | rfl | ⟨hidle, hup, hlong⟩ | hproper
  · cases (enter_idle hplace hidle).symm.trans h
  · cases (enter_up hplace).symm.trans h
  · cases (enter_long hplace hidle hup hlong).symm.trans h
  · rw [enter_proper hplace hproper] at h
    split at h
    · cases h
    · next habsent => exact ⟨hproper, by simpa using habsent⟩

/-! ## Names in a row -/

/-- The names lead from one place to another. -/
inductive Leads (d : Disk) : List String → List String → List String → Prop
  | here (place : List String) : Leads d place [] place
  | on {place r q : List String} {name : String} {steps : List String}
    (enter : d.enter place name = .ok r) (rest : Leads d r steps q) :
    Leads d place (name :: steps) q

theorem foldlM_enter : steps.foldlM d.enter place = .ok q ↔ d.Leads place steps q := by
  induction steps generalizing place with
  | nil =>
    constructor
    · intro h
      cases h
      exact .here q
    · rintro ⟨⟩
      rfl
  | cons name steps ih =>
    rw [List.foldlM_cons, bind_eq_ok]
    constructor
    · rintro ⟨r, henter, hrest⟩
      exact .on henter (ih.mp hrest)
    · rintro (_ | ⟨henter, hrest⟩)
      exact ⟨_, henter, ih.mpr hrest⟩

theorem locate_eq_ok :
    d.locate p = .ok q ↔ ∃ steps, names p = .ok steps ∧ d.Leads (d.origin p) steps q := by
  rw [locate, bind_eq_ok]
  simp only [foldlM_enter]

theorem Leads.append (h : d.Leads place steps r) (h' : d.Leads r steps' q) :
    d.Leads place (steps ++ steps') q := by
  induction h with
  | here => exact h'
  | on henter _ ih => exact .on henter (ih h')

theorem leads_append :
    d.Leads place (steps ++ steps') q ↔ ∃ r, d.Leads place steps r ∧ d.Leads r steps' q := by
  constructor
  · intro h
    induction steps generalizing place with
    | nil => exact ⟨place, .here place, h⟩
    | cons name steps ih =>
      obtain _ | ⟨henter, hrest⟩ := h
      obtain ⟨r, hfirst, hlast⟩ := ih hrest
      exact ⟨r, .on henter hfirst, hlast⟩
  · rintro ⟨r, hfirst, hlast⟩
    exact hfirst.append hlast

theorem isDirectory_iff :
    d.isDirectory p = true ↔ ∃ q, d.locate p = .ok q ∧ d.at? q = some .directory := by
  unfold isDirectory
  cases d.locate p with
  | error fault => simp
  | ok q => simp

/-- Names that lead to a directory begin at one. -/
theorem Leads.at?_start (h : d.Leads place steps q) (hq : d.at? q = some .directory) :
    d.at? place = some .directory := by
  cases h with
  | here => exact hq
  | on henter _ => exact at?_of_enter henter

theorem leads_idle (hplace : d.at? place = some .directory)
    (h : ∀ name ∈ steps, name = "" ∨ name = ".") : d.Leads place steps place := by
  induction steps with
  | nil => exact .here place
  | cons name steps ih =>
    exact .on (enter_idle hplace (h name List.mem_cons_self))
      (ih fun s hs => h s (List.mem_cons_of_mem name hs))

theorem names_eq_ok : names p = .ok steps ↔ p.isEmpty = false ∧ p.chars.contains '\x00' = false ∧
    p.text.utf8ByteSize < pathLimit ∧ p.steps.map String.ofList = steps := by
  unfold names
  cases p.isEmpty with
  | true => simp
  | false =>
    cases p.chars.contains '\x00' with
    | true => simp
    | false =>
      by_cases hlong : pathLimit ≤ p.text.utf8ByteSize
      · simp [hlong, Nat.not_lt.mpr hlong]
      · simp [hlong, Nat.not_le.mp hlong]

/-! ## Disks that have what others have -/

/-- The second disk has directories where the first has, and something where the first has. -/
structure Keeps (d d' : Disk) : Prop where
  working : d'.working = d.working
  directory : ∀ place, d.at? place = some .directory → d'.at? place = some .directory
  present : ∀ place, (d.at? place).isSome = true → (d'.at? place).isSome = true

theorem Keeps.enter (h : Keeps d d') (henter : d.enter place name = .ok q) :
    d'.enter place name = .ok q := by
  obtain ⟨hplace, henters⟩ := enter_eq_ok.mp henter
  refine enter_eq_ok.mpr ⟨h.directory place hplace, ?_⟩
  cases henters with
  | idle hidle => exact .idle hidle
  | up => exact .up
  | further hproper hpresent => exact .further hproper (h.present _ hpresent)

theorem Keeps.leads (h : Keeps d d') (hleads : d.Leads place steps q) : d'.Leads place steps q := by
  induction hleads with
  | here place => exact .here place
  | on henter _ ih => exact .on (h.enter henter) ih

theorem Keeps.origin (h : Keeps d d') (p : Path) : d'.origin p = d.origin p := by
  rw [Disk.origin, Disk.origin, h.working]

theorem Keeps.locate (h : Keeps d d') (hlocate : d.locate p = .ok q) : d'.locate p = .ok q := by
  obtain ⟨steps, hsteps, hleads⟩ := locate_eq_ok.mp hlocate
  exact locate_eq_ok.mpr ⟨steps, hsteps, h.origin p ▸ h.leads hleads⟩

/-- Names lead to a directory on every disk that has the directories of this one. -/
theorem Leads.of_directories (hdirectory : ∀ place, d.at? place = some .directory →
    d'.at? place = some .directory) (h : d.Leads place steps q) (hq : d.at? q = some .directory) :
    d'.Leads place steps q := by
  induction h with
  | here place => exact .here place
  | on henter hrest ih =>
    have hnext := hdirectory _ (hrest.at?_start hq)
    obtain ⟨hplace, henters⟩ := enter_eq_ok.mp henter
    refine .on (enter_eq_ok.mpr ⟨hdirectory _ hplace, ?_⟩) (ih hq)
    cases henters with
    | idle hidle => exact .idle hidle
    | up => exact .up
    | further hproper _ => exact .further hproper (by rw [hnext]; rfl)

theorem isDirectory_of_directories (hworking : d'.working = d.working)
    (hdirectory : ∀ place, d.at? place = some .directory → d'.at? place = some .directory)
    (h : d.isDirectory p = true) : d'.isDirectory p = true := by
  obtain ⟨q, hlocate, hq⟩ := isDirectory_iff.mp h
  obtain ⟨steps, hsteps, hleads⟩ := locate_eq_ok.mp hlocate
  have horigin : d'.origin p = d.origin p := by
    rw [origin, origin, hworking]
  exact isDirectory_iff.mpr ⟨q, locate_eq_ok.mpr ⟨steps, hsteps,
    horigin ▸ hleads.of_directories hdirectory hq⟩, hdirectory q hq⟩

theorem keeps_put (hroot : place ≠ []) (h : d.at? place ≠ some .directory) :
    Keeps d (d.put place content) where
  working := rfl
  directory q hq := by
    have hne : q ≠ place := by
      rintro rfl
      exact h hq
    rw [at?_put hroot, if_neg hne, hq]
  present q hq := by
    rw [at?_put hroot]
    split
    · rfl
    · exact hq

/-! ## Disks on which something has been made -/

/-- Directories have been made where nothing was, at places that the first paths lead to. Files
have been written where no directory was, at places that the other paths lead to. All else is as
it was. -/
structure Grown (directories files : List Path) (d d' : Disk) : Prop where
  working : d'.working = d.working
  place : ∀ place, d'.at? place = d.at? place ∨
    (d.at? place = none ∧ d'.at? place = some .directory ∧
      ∃ p ∈ directories, d'.locate p = .ok place) ∨
    (d.at? place ≠ some .directory ∧ (∃ octets, d'.at? place = some (.file octets)) ∧
      ∃ p ∈ files, d'.locate p = .ok place)

namespace Grown

variable {directories directories' files files' : List Path}

theorem refl (directories files : List Path) (d : Disk) : Grown directories files d d :=
  ⟨rfl, fun _ => .inl rfl⟩

theorem keeps (h : Grown directories files d d') : Keeps d d' where
  working := h.working
  directory place hplace := by
    rcases h.place place with hsame | ⟨hnone, -, -⟩ | ⟨hfile, -, -⟩
    · rw [hsame, hplace]
    · cases hnone.symm.trans hplace
    · exact absurd hplace hfile
  present place hplace := by
    rcases h.place place with hsame | ⟨-, hmade, -⟩ | ⟨-, ⟨octets, hwritten⟩, -⟩
    · rw [hsame, hplace]
    · rw [hmade]
      rfl
    · rw [hwritten]
      rfl

theorem trans (h : Grown directories files d d') (h' : Grown directories files d' d'') :
    Grown directories files d d'' := by
  refine ⟨h'.working.trans h.working, fun place => ?_⟩
  rcases h.place place with hsame | ⟨hnone, hmade, p, hp, hlocate⟩ |
    ⟨hfile, ⟨octets, hwritten⟩, p, hp, hlocate⟩
  · rw [← hsame]
    exact h'.place place
  · -- A directory that has been made stays.
    exact .inr (.inl ⟨hnone, h'.keeps.directory place hmade, p, hp, h'.keeps.locate hlocate⟩)
  · rcases h'.place place with hsame' | ⟨hnone, -, -⟩ | ⟨-, hwritten', hplace⟩
    · exact .inr (.inr ⟨hfile, ⟨octets, hsame'.trans hwritten⟩, p, hp, h'.keeps.locate hlocate⟩)
    · cases hnone.symm.trans hwritten
    · exact .inr (.inr ⟨hfile, hwritten', hplace⟩)

theorem mono (h : Grown directories files d d') (hdirectories : directories ⊆ directories')
    (hfiles : files ⊆ files') : Grown directories' files' d d' := by
  refine ⟨h.working, fun place => ?_⟩
  rcases h.place place with hsame | ⟨hnone, hmade, p, hp, hlocate⟩ |
    ⟨hfile, hwritten, p, hp, hlocate⟩
  · exact .inl hsame
  · exact .inr (.inl ⟨hnone, hmade, p, hdirectories hp, hlocate⟩)
  · exact .inr (.inr ⟨hfile, hwritten, p, hfiles hp, hlocate⟩)

theorem isDirectory (h : Grown directories files d d') (hp : d.isDirectory p = true) :
    d'.isDirectory p = true := isDirectory_of_directories h.working h.keeps.directory hp

/-- Writing files makes no directories. -/
theorem isDirectory_eq (h : Grown [] files d d') (p : Path) :
    d'.isDirectory p = d.isDirectory p := by
  refine Bool.eq_iff_iff.mpr ⟨fun hp => ?_, h.isDirectory⟩
  refine isDirectory_of_directories h.working.symm (fun place hplace => ?_) hp
  rcases h.place place with hsame | ⟨-, -, p, hp, -⟩ | ⟨-, ⟨octets, hwritten⟩, -⟩
  · rw [← hsame, hplace]
  · cases hp
  · cases hwritten.symm.trans hplace

end Grown

/-! ## Where a path ends -/

theorem eq_append_of_dropWhile {α : Type} {f : α → Bool} {l above : List α} {a : α}
    (h : l.reverse.dropWhile f = a :: above) :
    f a = false ∧ ∃ tail, (∀ b ∈ tail, f b = true) ∧ l = above.reverse ++ a :: tail := by
  have htail : ∀ b ∈ l.reverse.takeWhile f, f b = true := List.all_eq_true.mp List.all_takeWhile
  have hfirst := List.head?_dropWhile_not f l.reverse
  rw [h] at hfirst
  refine ⟨by simpa using hfirst, (l.reverse.takeWhile f).reverse,
    fun b hb => htail b (List.mem_reverse.mp hb), ?_⟩
  calc
    l = (l.reverse.takeWhile f ++ l.reverse.dropWhile f).reverse := by
      rw [List.takeWhile_append_dropWhile, List.reverse_reverse]
    _ = above.reverse ++ a :: (l.reverse.takeWhile f).reverse := by
      rw [h, List.reverse_append, List.reverse_cons, List.append_assoc, List.singleton_append]

theorem target_eq (hsteps : names p = .ok steps) :
    d.target p = match steps.reverse.dropWhile (· = "") with
      | [] => .error .alreadyExists
      | name :: above => above.reverse.foldlM d.enter (d.origin p) >>= fun place =>
          d.enter place "" >>= fun place => .ok (place, name) := by
  rw [target, hsteps]
  rfl

theorem target_eq_ok (h : d.target p = .ok (place, name)) : ∃ above blanks : List String,
    names p = .ok (above ++ name :: blanks) ∧ (∀ s ∈ blanks, s = "") ∧
      d.Leads (d.origin p) above place ∧ d.at? place = some .directory := by
  rw [target, bind_eq_ok] at h
  obtain ⟨steps, hsteps, h⟩ := h
  split at h
  · cases h
  · next last above hdrop =>
    obtain ⟨-, blanks, hblanks, rfl⟩ := eq_append_of_dropWhile hdrop
    obtain ⟨r, hr, h⟩ := bind_eq_ok.mp h
    obtain ⟨r', henter, h⟩ := bind_eq_ok.mp h
    cases h
    have hplace := at?_of_enter henter
    obtain rfl := Except.ok.inj ((enter_idle hplace (.inl rfl)).symm.trans henter)
    exact ⟨_, blanks, hsteps, fun s hs => of_decide_eq_true (hblanks s hs), foldlM_enter.mp hr,
      hplace⟩

/-- At the end of a path that does not end with a slash no name is empty. -/
theorem names_blanks {blanks : List String} (h : names p = .ok (steps ++ blanks))
    (hblanks : ∀ s ∈ blanks, s = "") (hslash : p.chars.getLast? ≠ some '/') : blanks = [] := by
  cases blanks with
  | nil => rfl
  | cons blank rest =>
    obtain ⟨hsome, -, -, hsteps⟩ := names_eq_ok.mp h
    have hne : blank :: rest ≠ [] := List.cons_ne_nil blank rest
    have hlast : (p.steps.map String.ofList).getLast? = some "" := by
      rw [hsteps, List.getLast?_append, List.getLast?_eq_some_getLast hne,
        hblanks _ (List.getLast_mem hne), Option.some_or]
    rw [List.getLast?_map, Option.map_eq_some_iff] at hlast
    obtain ⟨step, hstep, hempty⟩ := hlast
    obtain rfl : step = [] := by simpa using hempty
    rcases Text.getLast?_of_splitOn hstep with hnil | hend
    · rw [Path.isEmpty, hnil] at hsome
      cases hsome
    · exact absurd hend hslash

/-- A path leads on a disk with more on it to where the name in the place above it leads. -/
theorem Keeps.locate_target (h : Keeps d d') (htarget : d.target p = .ok (place, name))
    (henter : d'.enter place name = .ok q)
    (hend : d'.at? q = some .directory ∨ p.chars.getLast? ≠ some '/') : d'.locate p = .ok q := by
  obtain ⟨above, blanks, hnames, hblanks, habove, -⟩ := target_eq_ok htarget
  have hrest : d'.Leads q blanks q := by
    rcases hend with hq | hslash
    · exact leads_idle hq fun s hs => .inl (hblanks s hs)
    · rw [List.append_cons] at hnames
      rw [names_blanks hnames hblanks hslash]
      exact .here q
  refine locate_eq_ok.mpr ⟨_, hnames, ?_⟩
  rw [h.origin]
  exact (h.leads habove).append (.on henter hrest)

/-! ## One directory, one file -/

/-- What is put where the last name of a path was not found is found on that path. -/
theorem locate_put_new (htarget : d.target p = .ok (place, name))
    (henter : d.enter place name = .error .notFound)
    (hend : content = .directory ∨ p.chars.getLast? ≠ some '/') : place ++ [name] ≠ [] ∧
      d.at? (place ++ [name]) = none ∧
      (d.put (place ++ [name]) content).locate p = .ok (place ++ [name]) := by
  obtain ⟨-, -, -, -, -, hplace⟩ := target_eq_ok htarget
  obtain ⟨hproper, hnone⟩ := of_enter_notFound hplace henter
  have hroot : place ++ [name] ≠ [] :=
    List.append_ne_nil_of_right_ne_nil place (List.cons_ne_nil name [])
  have hkeeps : Keeps d (d.put (place ++ [name]) content) := keeps_put hroot (by simp [hnone])
  have hput : (d.put (place ++ [name]) content).at? (place ++ [name]) = some content := by
    rw [at?_put hroot, if_pos rfl]
  have hentered : (d.put (place ++ [name]) content).enter place name = .ok (place ++ [name]) :=
    enter_eq_ok.mpr ⟨hkeeps.directory place hplace, .further hproper (by rw [hput]; rfl)⟩
  refine ⟨hroot, hnone, hkeeps.locate_target htarget hentered (hend.imp_left ?_)⟩
  rintro rfl
  exact hput

theorem makeDir_eq_ok (h : d.makeDir p = .ok d') : ∃ place, place ≠ [] ∧ d.at? place = none ∧
    d' = d.put place .directory ∧ d'.locate p = .ok place := by
  rw [makeDir, bind_eq_ok] at h
  obtain ⟨⟨place, name⟩, htarget, h⟩ := h
  dsimp only at h
  split at h
  · cases h
  · next henter =>
    obtain rfl := Except.ok.inj h
    obtain ⟨hroot, hnone, hlocate⟩ := locate_put_new htarget henter (.inl rfl)
    exact ⟨place ++ [name], hroot, hnone, rfl, hlocate⟩
  · cases h

theorem writeFile_eq_ok {octets : List UInt8} (hslash : p.chars.getLast? ≠ some '/')
    (h : d.writeFile p octets = .ok d') : ∃ place, place ≠ [] ∧ d.at? place ≠ some .directory ∧
      d' = d.put place (.file octets) ∧ d'.locate p = .ok place := by
  rw [writeFile, bind_eq_ok] at h
  obtain ⟨⟨place, name⟩, htarget, h⟩ := h
  dsimp only at h
  split at h
  · next found henter =>
    split at h
    · next earlier hfound =>
      obtain rfl := Except.ok.inj h
      have hfile : d.at? found ≠ some .directory := by simp [hfound]
      have hroot : found ≠ [] := by
        rintro rfl
        exact hfile rfl
      have hkeeps : Keeps d (d.put found (.file octets)) := keeps_put hroot hfile
      exact ⟨found, hroot, hfile, rfl,
        hkeeps.locate_target htarget (hkeeps.enter henter) (.inr hslash)⟩
    · cases h
  · next henter =>
    rw [if_neg hslash] at h
    obtain rfl := Except.ok.inj h
    obtain ⟨hroot, hnone, hlocate⟩ := locate_put_new htarget henter (.inr hslash)
    exact ⟨place ++ [name], hroot, by simp [hnone], rfl, hlocate⟩
  · cases h

theorem grown_put_directory (hroot : place ≠ []) (h : d.at? place = none)
    (hlocate : (d.put place .directory).locate p = .ok place) :
    Grown [p] [] d (d.put place .directory) := by
  refine ⟨rfl, fun q => ?_⟩
  by_cases hq : q = place
  · subst hq
    exact .inr (.inl ⟨h, by rw [at?_put hroot, if_pos rfl], p, List.mem_singleton_self p, hlocate⟩)
  · exact .inl (by rw [at?_put hroot, if_neg hq])

theorem grown_put_file {octets : List UInt8} (hroot : place ≠ [])
    (h : d.at? place ≠ some .directory)
    (hlocate : (d.put place (.file octets)).locate p = .ok place) :
    Grown [] [p] d (d.put place (.file octets)) := by
  refine ⟨rfl, fun q => ?_⟩
  by_cases hq : q = place
  · subst hq
    have hput : (d.put q (.file octets)).at? q = some (.file octets) := by
      rw [at?_put hroot, if_pos rfl]
    exact .inr (.inr ⟨h, ⟨octets, hput⟩, p, List.mem_singleton_self p, hlocate⟩)
  · exact .inl (by rw [at?_put hroot, if_neg hq])

theorem Grown.makeDir (h : d.makeDir p = .ok d') : Grown [p] [] d d' := by
  obtain ⟨place, hroot, hnone, rfl, hlocate⟩ := makeDir_eq_ok h
  exact grown_put_directory hroot hnone hlocate

theorem Grown.writeFile {octets : List UInt8} (hslash : p.chars.getLast? ≠ some '/')
    (h : d.writeFile p octets = .ok d') : Grown [] [p] d d' := by
  obtain ⟨place, hroot, hfile, rfl, hlocate⟩ := writeFile_eq_ok hslash h
  exact grown_put_file hroot hfile hlocate

theorem isDirectory_of_makeDir (h : d.makeDir p = .ok d') : d'.isDirectory p = true := by
  obtain ⟨place, hroot, hnone, rfl, hlocate⟩ := makeDir_eq_ok h
  exact isDirectory_iff.mpr ⟨place, hlocate, by rw [at?_put hroot, if_pos rfl]⟩

/-- A directory that is there cannot be made. -/
theorem makeDir_of_isDirectory (h : d.isDirectory p = true) :
    d.makeDir p = .error .alreadyExists := by
  obtain ⟨q, hlocate, hq⟩ := isDirectory_iff.mp h
  obtain ⟨steps, hsteps, hleads⟩ := locate_eq_ok.mp hlocate
  cases hdrop : steps.reverse.dropWhile (· = "") with
  | nil =>
    have htarget : d.target p = .error .alreadyExists := by
      rw [target_eq hsteps, hdrop]
    rw [makeDir, htarget]
    rfl
  | cons name above =>
    obtain ⟨-, blanks, -, rfl⟩ := eq_append_of_dropWhile hdrop
    obtain ⟨place, habove, hrest⟩ := leads_append.mp hleads
    obtain _ | ⟨henter, -⟩ := hrest
    have htarget : d.target p = .ok (place, name) := by
      rw [target_eq hsteps, hdrop]
      exact bind_eq_ok.mpr ⟨place, foldlM_enter.mpr habove, bind_eq_ok.mpr
        ⟨place, enter_idle (at?_of_enter henter) (.inl rfl), rfl⟩⟩
    simp only [makeDir, htarget, henter, bind, Except.bind]

end AppConfig.Disk
