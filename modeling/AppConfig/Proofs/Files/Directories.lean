import AppConfig.Proofs.Files.Disk

/-! # Directories that are made

* `Path.names_of_parent?`: a path goes on from its parent by one name.
* `Disk.isDirectory_parent`: the parent of a directory is one.
* `Disk.grown_makeDirs`: making a directory makes directories at places that the path and the paths
  above it lead to, and nothing else.
* `Disk.makeDirs_ok_iff`: making a directory succeeds exactly if it is there afterwards.
-/

namespace AppConfig
set_option autoImplicit false

namespace Path

variable {p above : Path}

/-! ## Parents -/

theorem lead_append (text : List Char) : (lead text).1 ++ (lead text).2 = text := by
  unfold lead
  split <;> rfl

theorem names_lead (text : List Char) : names (lead text).2 = names text := by
  unfold lead
  split
  · exact (names_append [] _).symm
  · rfl
  · next rest => exact (names_append [] rest).trans (names_append ['.'] rest).symm
  · rfl

theorem names_lead_front (text : List Char) : names (lead text).1 = [] := by
  unfold lead
  split <;> rfl

theorem names_joinWith {pieces : List (List Char)} (hne : pieces ≠ [])
    (hmark : ∀ piece ∈ pieces, '/' ∉ piece) :
    names (Text.joinWith '/' pieces) = pieces.filter fun step => !isIdle step := by
  rw [names, Text.splitOn_joinWith hmark hne]

/-- The steps of a path behind its front: those of the parent, and behind them one that moves. -/
theorem parent?_eq_some (h : p.parent? = some above) (hsome : above.isEmpty = false) :
    ∃ kept rest name, Text.splitOn '/' (lead p.chars).2 = kept ++ rest ∧
      above.chars = (lead p.chars).1 ++ Text.joinWith '/' kept ∧
      rest.filter (fun step => !isIdle step) = [name] := by
  unfold parent? at h
  split at h
  next front body hlead =>
  split at h
  · split at h
    · cases h
      cases hsome
    · cases h
  · next name before hdrop =>
    obtain rfl := Option.some.inj h
    obtain ⟨hname, idles, hidles, hsteps⟩ := Disk.eq_append_of_dropWhile hdrop
    have hbefore : before.reverse =
        (before.dropWhile isIdle).reverse ++ (before.takeWhile isIdle).reverse := by
      rw [← List.reverse_append, List.takeWhile_append_dropWhile]
    have hskipped : ∀ step ∈ (before.takeWhile isIdle).reverse, isIdle step = true :=
      fun step hstep => List.all_eq_true.mp List.all_takeWhile step (List.mem_reverse.mp hstep)
    refine ⟨(before.dropWhile isIdle).reverse, (before.takeWhile isIdle).reverse ++ name :: idles,
      name, ?_, ?_, ?_⟩
    · rw [hlead, hsteps, hbefore, List.append_assoc]
    · rw [hlead, chars_ofChars]
    · rw [List.filter_append, List.filter_cons_of_pos (by simp [hname])]
      rw [List.filter_eq_nil_iff.mpr (by simpa using hskipped),
        List.filter_eq_nil_iff.mpr (by simpa using hidles), List.nil_append]

/-- A path begins with the text of its parent and goes on by one name. -/
theorem names_of_parent? (h : p.parent? = some above) (hsome : above.isEmpty = false) :
    above.chars <+: p.chars ∧ ∃ name, names p.chars = names above.chars ++ [name] := by
  obtain ⟨kept, rest, name, hsteps, hchars, hrest⟩ := parent?_eq_some h hsome
  have hp : p.chars = (lead p.chars).1 ++ (lead p.chars).2 := (lead_append p.chars).symm
  have hne : rest ≠ [] := by
    rintro rfl
    cases hrest
  have hbody : (lead p.chars).2 = Text.joinWith '/' (kept ++ rest) := by
    rw [← hsteps, Text.joinWith_splitOn]
  by_cases hkept : kept = []
  · subst hkept
    have habove : above.chars = (lead p.chars).1 := by rw [hchars, Text.joinWith, List.append_nil]
    have hnames : names p.chars = [name] := by
      rw [← names_lead, names, hsteps]
      exact hrest
    rw [habove, names_lead_front]
    exact ⟨⟨_, hp.symm⟩, name, hnames⟩
  · have hmark : ∀ piece ∈ rest, '/' ∉ piece := fun piece hpiece =>
      Text.not_mem_of_mem_splitOn (hsteps ▸ List.mem_append_right kept hpiece)
    have hsplit : p.chars = above.chars ++ '/' :: Text.joinWith '/' rest := by
      rw [hp, hbody, Text.joinWith_append hkept hne, hchars, List.append_assoc]
    have hnames : names p.chars = names above.chars ++ [name] := by
      rw [hsplit, names_append, names_joinWith hne hmark, hrest]
    exact ⟨⟨_, hsplit.symm⟩, name, hnames⟩

end Path

namespace Disk

variable {d d' : Disk} {place q : List String} {steps : List String} {p above : Path}
  {fault : IoFault}

/-- The name leads further in, or up. -/
def moves (name : String) : Bool := !Path.isIdle name.toList

theorem moves_eq_false_iff (name : String) : moves name = false ↔ name = "" ∨ name = "." := by
  have hempty : name.toList = [] ↔ name = "" := String.toList_eq_nil_iff
  have hdot : name.toList = ".".toList ↔ name = "." := String.toList_inj
  rw [moves, Path.isIdle, Bool.not_eq_false', Bool.or_eq_true, decide_eq_true_eq,
    decide_eq_true_eq, hempty]
  exact or_congr Iff.rfl hdot

/-- Names that lead nowhere may be left out on the way to a directory. -/
theorem leads_filter (hq : d.at? q = some .directory) :
    d.Leads place steps q ↔ d.Leads place (steps.filter moves) q := by
  induction steps generalizing place with
  | nil => rfl
  | cons name steps ih =>
    cases hmoves : moves name with
    | false =>
      have hidle := (moves_eq_false_iff name).mp hmoves
      rw [List.filter_cons_of_neg (Bool.eq_false_iff.mp hmoves)]
      constructor
      · rintro (_ | ⟨henter, hrest⟩)
        obtain rfl := Except.ok.inj ((enter_idle (at?_of_enter henter) hidle).symm.trans henter)
        exact ih.mp hrest
      · intro hrest
        exact .on (enter_idle (hrest.at?_start hq) hidle) (ih.mpr hrest)
    | true =>
      rw [List.filter_cons_of_pos hmoves]
      constructor
      · rintro (_ | ⟨henter, hrest⟩)
        exact .on henter (ih.mp hrest)
      · rintro (_ | ⟨henter, hrest⟩)
        exact .on henter (ih.mpr hrest)

theorem filter_moves (p : Path) :
    (p.steps.map String.ofList).filter moves = (Path.names p.chars).map String.ofList := by
  rw [List.filter_map, Path.names, Path.steps]
  congr 1
  exact List.filter_congr fun step _ => by rw [Function.comp_apply, moves, String.toList_ofList]

theorem isDirectory_iff_names : d.isDirectory p = true ↔
    (p.isEmpty = false ∧ p.chars.contains '\x00' = false ∧ p.text.utf8ByteSize < pathLimit) ∧
      ∃ q, d.Leads (d.origin p) ((Path.names p.chars).map String.ofList) q ∧
        d.at? q = some .directory := by
  simp only [isDirectory_iff, locate_eq_ok, names_eq_ok, ← filter_moves]
  constructor
  · rintro ⟨q, ⟨steps, ⟨hsome, hnul, hlong, rfl⟩, hleads⟩, hq⟩
    exact ⟨⟨hsome, hnul, hlong⟩, q, (leads_filter hq).mp hleads, hq⟩
  · rintro ⟨⟨hsome, hnul, hlong⟩, q, hleads, hq⟩
    exact ⟨q, ⟨_, ⟨hsome, hnul, hlong, rfl⟩, (leads_filter hq).mpr hleads⟩, hq⟩

/-- The parent of a directory is one. -/
theorem isDirectory_parent (h : p.parent? = some above) (hsome : above.isEmpty = false)
    (hp : d.isDirectory p = true) : d.isDirectory above = true := by
  obtain ⟨⟨tail, htail⟩, name, hnames⟩ := Path.names_of_parent? h hsome
  obtain ⟨⟨-, hnul, hlong⟩, q, hleads, hq⟩ := isDirectory_iff_names.mp hp
  rw [hnames, List.map_append] at hleads
  obtain ⟨r, hr, hlast⟩ := leads_append.mp hleads
  have horigin : d.origin above = d.origin p := by
    obtain ⟨c, rest, hchars⟩ := List.exists_cons_of_ne_nil (List.isEmpty_eq_false_iff.mp hsome)
    have habsolute : above.isAbsolute = p.isAbsolute := by
      rw [Path.isAbsolute, Path.isAbsolute, ← htail, hchars]
      rfl
    rw [origin, origin, habsolute]
  have hshort : above.text.utf8ByteSize ≤ p.text.utf8ByteSize := by
    have htext : p.text = above.text ++ String.ofList tail := by
      rw [← String.toList_inj, String.toList_append, String.toList_ofList]
      exact htail.symm
    rw [htext, String.utf8ByteSize_append]
    exact Nat.le_add_right _ _
  have hfree : above.chars.contains '\x00' = false := by
    rw [← htail, List.contains_append, Bool.or_eq_false_iff] at hnul
    exact hnul.1
  refine isDirectory_iff_names.mpr ⟨⟨hsome, hfree, Nat.lt_of_le_of_lt hshort hlong⟩, r, ?_,
    hlast.at?_start hq⟩
  rw [horigin]
  exact hr

/-! ## A path and those above it -/

/-- The directory is there; the empty path is the working directory. -/
def HasDirectory (d : Disk) (p : Path) : Prop := p.isEmpty = true ∨ d.isDirectory p = true

/-- A path and the paths above it. -/
def ancestry (p : Path) : List Path := ancestors (p.chars.length + 1) p

/-- How the first directory of a chain is made, and what may come of it. -/
inductive Makes (d : Disk) (p : Path) (above : List Path) : Disk × Except IoFault Unit → Prop
  | made {d' : Disk} (made : d.makeDir p = .ok d') : Makes d p above (d', .ok ())
  | refused {fault : IoFault} (refused : d.makeDir p = .error fault) :
    Makes d p above (d.settle p fault)
  | stuck {d' : Disk} {fault : IoFault} (missing : d.makeDir p = .error .notFound)
    (failed : d.makeChain above = (d', .error fault)) : Makes d p above (d', .error fault)
  | madeThen {d' d'' : Disk} (around : d.makeChain above = (d', .ok ()))
    (made : d'.makeDir p = .ok d'') : Makes d p above (d'', .ok ())
  | refusedThen {d' : Disk} {fault : IoFault} (around : d.makeChain above = (d', .ok ()))
    (refused : d'.makeDir p = .error fault) : Makes d p above (d'.settle p fault)

theorem makes_makeChain (d : Disk) (chain : List Path) (h : p.isEmpty = false) :
    Makes d p chain (d.makeChain (p :: chain)) := by
  rw [makeChain, if_neg (Bool.eq_false_iff.mp h)]
  cases hfirst : d.makeDir p with
  | ok d' => exact .made hfirst
  | error fault =>
    cases fault with
    | notFound =>
      rcases hchain : d.makeChain chain with ⟨d', fault | ⟨⟩⟩
      · exact .stuck hfirst hchain
      · dsimp only
        cases hsecond : d'.makeDir p with
        | ok d'' => exact .madeThen hchain hsecond
        | error fault => exact .refusedThen hchain hsecond
    | _ => exact .refused hfirst

theorem makeChain_of_isEmpty (d : Disk) (chain : List Path) (h : p.isEmpty = true) :
    d.makeChain (p :: chain) = (d, .ok ()) := by
  rw [makeChain, if_pos h]

theorem grown_makeChain (d : Disk) (chain : List Path) :
    Grown chain [] d (d.makeChain chain).1 := by
  induction chain with
  | nil => exact .refl [] [] d
  | cons p chain ih =>
    have hfirst : [p] ⊆ p :: chain := List.cons_subset_cons p (List.nil_subset chain)
    have haround := ih.mono (List.subset_cons_self p chain) (List.nil_subset [])
    cases hp : p.isEmpty with
    | true =>
      rw [makeChain_of_isEmpty d chain hp]
      exact .refl _ _ d
    | false =>
      have hmakes := makes_makeChain d chain hp
      generalize d.makeChain (p :: chain) = left at hmakes ⊢
      cases hmakes with
      | made hmade => exact (Grown.makeDir hmade).mono hfirst (List.nil_subset [])
      | refused => exact .refl _ _ d
      | stuck _ hfailed =>
        rw [hfailed] at haround
        exact haround
      | madeThen hchain hmade =>
        rw [hchain] at haround
        exact haround.trans ((Grown.makeDir hmade).mono hfirst (List.nil_subset []))
      | refusedThen hchain _ =>
        rw [hchain] at haround
        exact haround

theorem settle_ok (h : (d.settle p fault).2 = .ok ()) : d.isDirectory p = true := by
  unfold settle at h
  split at h
  · assumption
  · cases h

theorem settle_of_isDirectory (h : d.isDirectory p = true) : (d.settle p fault).2 = .ok () := by
  rw [settle, if_pos h]

theorem makeChain_ok {chain : List Path} (h : (d.makeChain (p :: chain)).2 = .ok ()) :
    (d.makeChain (p :: chain)).1.HasDirectory p := by
  cases hp : p.isEmpty with
  | true => exact .inl hp
  | false =>
    right
    have hmakes := makes_makeChain d chain hp
    generalize d.makeChain (p :: chain) = left at hmakes h ⊢
    cases hmakes with
    | made hmade => exact isDirectory_of_makeDir hmade
    | refused => exact settle_ok h
    | stuck => cases h
    | madeThen _ hmade => exact isDirectory_of_makeDir hmade
    | refusedThen => exact settle_ok h

theorem ancestors_succ (count : Nat) (p : Path) : ∃ chain, ancestors (count + 1) p = p :: chain ∧
    (chain = [] ∨ ∃ above, p.parent? = some above ∧ chain = ancestors count above) := by
  rw [ancestors]
  cases p.parent? with
  | none => exact ⟨[], rfl, .inl rfl⟩
  | some above => exact ⟨_, rfl, .inr ⟨above, rfl, rfl⟩⟩

/-- The paths above cannot be made and the path is no directory then. -/
def Stuck (d : Disk) (p : Path) (chain : List Path) : Prop :=
  ∀ d' fault, d.makeDir p = .error .notFound → d.makeChain chain = (d', .error fault) →
    d'.isDirectory p = false

theorem stuck_nil (d : Disk) (p : Path) : Stuck d p [] := by
  intro d' fault hmissing hfailed
  cases hfailed
  cases hdirectory : d.isDirectory p with
  | false => rfl
  | true => cases (makeDir_of_isDirectory hdirectory).symm.trans hmissing

/-- Where a directory around the path is missing, the path is none. -/
theorem stuck_of_parent {chain : List Path} (habove : p.parent? = some above)
    (h : (d.makeChain chain).2 = .ok () ↔ (d.makeChain chain).1.HasDirectory above) :
    Stuck d p chain := by
  intro d' fault _ hfailed
  rw [hfailed] at h
  have hnone : ¬ d'.HasDirectory above := by
    intro hdirectory
    cases h.mpr hdirectory
  have hsome : above.isEmpty = false := Bool.eq_false_iff.mpr fun h => hnone (.inl h)
  exact Bool.eq_false_iff.mpr fun hp => hnone (.inr (isDirectory_parent habove hsome hp))

theorem Stuck.ok_iff {chain : List Path} (hstuck : Stuck d p chain) :
    (d.makeChain (p :: chain)).2 = .ok () ↔ (d.makeChain (p :: chain)).1.HasDirectory p := by
  refine ⟨makeChain_ok, fun h => ?_⟩
  cases hp : p.isEmpty with
  | true => rw [makeChain_of_isEmpty d chain hp]
  | false =>
    have hdirectory := h.resolve_left (Bool.eq_false_iff.mp hp)
    have hmakes := makes_makeChain d chain hp
    generalize d.makeChain (p :: chain) = left at hmakes hdirectory ⊢
    cases hmakes with
    | made => rfl
    | refused => exact settle_of_isDirectory hdirectory
    | stuck hmissing hfailed => cases (hstuck _ _ hmissing hfailed).symm.trans hdirectory
    | madeThen => rfl
    | refusedThen => exact settle_of_isDirectory hdirectory

theorem makeChain_ok_iff (d : Disk) (count : Nat) (p : Path) :
    (d.makeChain (ancestors (count + 1) p)).2 = .ok () ↔
      (d.makeChain (ancestors (count + 1) p)).1.HasDirectory p := by
  induction count generalizing p with
  | zero =>
    obtain ⟨chain, hchain, hnil | ⟨above, -, hnil⟩⟩ := ancestors_succ 0 p
    all_goals rw [hchain, hnil]
    all_goals exact (stuck_nil d p).ok_iff
  | succ count ih =>
    obtain ⟨chain, hchain, rfl | ⟨above, habove, rfl⟩⟩ := ancestors_succ (count + 1) p
    · rw [hchain]
      exact (stuck_nil d p).ok_iff
    · rw [hchain]
      exact (stuck_of_parent habove (ih above)).ok_iff

/-! ## Making a directory and those around it -/

theorem grown_makeDirs (d : Disk) (p : Path) : Grown (ancestry p) [] d (d.makeDirs p).1 :=
  grown_makeChain d (ancestry p)

/-- Making a directory succeeds exactly if it is there afterwards. -/
theorem makeDirs_ok_iff (d : Disk) (p : Path) :
    (d.makeDirs p).2 = .ok () ↔ (d.makeDirs p).1.HasDirectory p :=
  makeChain_ok_iff d p.chars.length p

end Disk
end AppConfig
