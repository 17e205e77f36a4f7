import AppConfig.Fault
import AppConfig.Proofs.Text.Split

/-! # Paths in the home directory

* `Path.components`: where a path begins, and the names along it.
* `Path.components_join`: a path seen from a directory has the components of the directory first.
* `Path.NamesHome`: a path that is `~` or begins with `~` and a separator.
* `Path.requireHome_eq_ok`: such a path asks for a home directory, and no other path does.
* `Path.AtHome`: what becomes of such a path; `Path.atHome_expandHome`: it is expanded so.
* `Path.confined_expandHome`: only such paths are expanded, and only once.
-/

namespace AppConfig.Path
set_option autoImplicit false

variable {home p : Path} {a b rest : List Char} {c : Char}

/-! ## Components -/

/-- The steps that lead somewhere. -/
def names (text : List Char) : List (List Char) :=
  (Text.splitOn '/' text).filter fun step => !isIdle step

/-- The root or the dot that a path begins with, and the names along it. -/
def components (p : Path) : List (List Char) :=
  let (front, body) := lead p.chars
  if front = [] then names body else front :: names body

theorem names_append (a b : List Char) : names (a ++ '/' :: b) = names a ++ names b := by
  rw [names, Text.splitOn_append_mark, List.filter_append, names, names]

theorem names_nil : names [] = [] := rfl

theorem isAbsolute_iff : p.isAbsolute = true ↔ ∃ body, p.chars = '/' :: body := by
  rw [isAbsolute, decide_eq_true_eq]
  cases p.chars with
  | nil => simp
  | cons c body => simp

theorem components_of_isAbsolute (h : p.isAbsolute = true) :
    p.components = ['/'] :: names p.chars := by
  obtain ⟨body, hbody⟩ := isAbsolute_iff.mp h
  have hroot : names p.chars = names body := by
    rw [hbody]
    exact names_append [] body
  rw [components, hroot, hbody]
  rfl

theorem chars_ofChars (text : List Char) : (ofChars text).chars = text := String.toList_ofList

/-- There is one slash in between, unless the directory ends with one or is empty. -/
theorem chars_join (home : Path) (h : p.isAbsolute = false) :
    (home.join p).chars = home.chars ++ p.chars ∧ (home.chars = [] ∨ ∃ a, home.chars = a ++ ['/']) ∨
      (home.join p).chars = home.chars ++ '/' :: p.chars := by
  rw [join, if_neg (by simp [h])]
  by_cases hend : home.isEmpty || home.chars.getLast? = some '/'
  · rw [if_pos hend, chars_ofChars]
    rw [isEmpty, Bool.or_eq_true, List.isEmpty_iff, decide_eq_true_eq,
      List.getLast?_eq_some_iff] at hend
    exact .inl ⟨rfl, hend⟩
  · rw [if_neg hend, chars_ofChars]
    exact .inr rfl

theorem names_join (h : p.isAbsolute = false) :
    names (home.join p).chars = names home.chars ++ names p.chars := by
  rcases chars_join home h with ⟨hchars, hempty | ⟨a, hslash⟩⟩ | hchars
  · rw [hchars, hempty]
    rfl
  · rw [hchars, hslash, List.append_assoc, List.singleton_append, names_append, names_append,
      names_nil, List.append_nil]
  · rw [hchars, names_append]

theorem isAbsolute_join (hhome : home.isAbsolute = true) : (home.join p).isAbsolute = true := by
  by_cases h : p.isAbsolute = true
  · rw [join, if_pos h]
    exact h
  · obtain ⟨body, hbody⟩ := isAbsolute_iff.mp hhome
    rcases chars_join home (Bool.eq_false_iff.mpr h) with ⟨hchars, -⟩ | hchars
    · exact isAbsolute_iff.mpr ⟨body ++ p.chars, by rw [hchars, hbody, List.cons_append]⟩
    · exact isAbsolute_iff.mpr ⟨body ++ '/' :: p.chars, by rw [hchars, hbody, List.cons_append]⟩

/-- What is seen from a directory lies in it. -/
theorem components_join (hhome : home.isAbsolute = true) (h : p.isAbsolute = false) :
    (home.join p).components = home.components ++ names p.chars := by
  rw [components_of_isAbsolute (isAbsolute_join hhome), components_of_isAbsolute hhome,
    names_join h, List.cons_append]

/-! ## Expansion -/

/-- The path is `~`, or begins with `~` and a slash or a backslash. -/
def NamesHome (p : Path) : Prop :=
  p.chars = ['~'] ∨ ['~', '/'] <+: p.chars ∨ ['~', '\\'] <+: p.chars

/-- Behind the `~` the path is at its end or goes on with a separator. -/
def IsRemainder (rest : List Char) : Prop := (rest.isEmpty || rest.head?.any isSeparator) = true

theorem isSeparator_iff : isSeparator c = true ↔ c = '/' ∨ c = '\\' := by simp [isSeparator]

theorem namesHome_iff : p.NamesHome ↔ ∃ rest, p.chars = '~' :: rest ∧ IsRemainder rest := by
  constructor
  · rintro (hp | ⟨more, hmore⟩ | ⟨more, hmore⟩)
    · exact ⟨[], hp, rfl⟩
    · exact ⟨'/' :: more, hmore.symm, rfl⟩
    · exact ⟨'\\' :: more, hmore.symm, rfl⟩
  · rintro ⟨rest, hp, hrest⟩
    cases rest with
    | nil => exact .inl hp
    | cons c more =>
      have hc : isSeparator c = true := hrest
      rcases isSeparator_iff.mp hc with rfl | rfl
      · exact .inr (.inl ⟨more, hp.symm⟩)
      · exact .inr (.inr ⟨more, hp.symm⟩)

theorem behindTilde?_eq_some :
    p.behindTilde? = some rest ↔ p.chars = '~' :: rest ∧ IsRemainder rest := by
  unfold behindTilde?
  split
  · next more hp =>
    rw [hp, List.cons_inj_right]
    constructor
    · intro h
      split at h
      · next hmore =>
        obtain rfl := Option.some.inj h
        exact ⟨rfl, hmore⟩
      · cases h
    · rintro ⟨rfl, hrest⟩
      exact if_pos hrest
  · next hother =>
    constructor
    · intro h
      cases h
    · rintro ⟨hp, -⟩
      exact absurd hp (hother rest)

theorem isSome_behindTilde? : p.behindTilde?.isSome = true ↔ p.NamesHome := by
  simp only [Option.isSome_iff_exists, behindTilde?_eq_some, namesHome_iff]

theorem expandHome_of_isRemainder (home : Path) (hp : p.chars = '~' :: rest)
    (h : IsRemainder rest) :
    p.expandHome (some home) = if rest.dropWhile isSeparator = [] then home
      else home.join (ofChars (rest.dropWhile isSeparator)) := by
  simp only [expandHome, behindTilde?_eq_some.mpr ⟨hp, h⟩]
  cases rest.dropWhile isSeparator with
  | nil => rfl
  | cons c more => rfl

theorem expandHome_of_not_namesHome {home : Option Path} (h : ¬ p.NamesHome) :
    p.expandHome home = p := by
  rw [← isSome_behindTilde?, Option.not_isSome_iff_eq_none] at h
  simp only [expandHome, h]

/-! ## No home directory -/

theorem requireHome_eq_ok {home : Option Path} :
    p.requireHome home = .ok () ↔ (p.NamesHome → home ≠ none) := by
  rw [← isSome_behindTilde?, requireHome, lacksHome]
  cases home with
  | none => cases p.behindTilde?.isSome <;> simp
  | some home => simp

theorem requireHome_eq_error {home : Option Path} {fault : Fault} :
    p.requireHome home = .error fault ↔ p.NamesHome ∧ home = none ∧ fault = .noHome p := by
  rw [← isSome_behindTilde?, requireHome, lacksHome]
  cases home with
  | none => cases p.behindTilde?.isSome <;> simp [eq_comm]
  | some home => simp

/-! ## Confinement -/

theorem not_namesHome_of_isAbsolute (h : p.isAbsolute = true) : ¬ p.NamesHome := by
  intro hhome
  obtain ⟨body, hbody⟩ := isAbsolute_iff.mp h
  obtain ⟨rest, hrest, -⟩ := namesHome_iff.mp hhome
  rw [hbody] at hrest
  cases hrest

theorem head?_dropWhile_isSeparator (rest : List Char) :
    (rest.dropWhile isSeparator).head?.any isSeparator = false := by
  have hfirst := List.head?_dropWhile_not isSeparator rest
  cases hhead : (rest.dropWhile isSeparator).head? with
  | none => rfl
  | some c =>
    rw [hhead] at hfirst
    exact hfirst

/-- The separators in front are dropped, so what is left is no absolute path. -/
theorem isAbsolute_inner (rest : List Char) :
    (ofChars (rest.dropWhile isSeparator)).isAbsolute = false := by
  rw [isAbsolute, chars_ofChars, decide_eq_false_iff_not]
  intro hslash
  have hfirst := head?_dropWhile_isSeparator rest
  rw [hslash] at hfirst
  cases hfirst

/-- What becomes of a path that names the home directory: what stands behind the separators is seen
from there, and from no other directory. -/
structure AtHome (home p result : Path) : Prop where
  remainder : ∃ separators rest, p.chars = '~' :: (separators ++ rest) ∧
    (∀ c ∈ separators, isSeparator c = true) ∧ rest.head?.any isSeparator = false ∧
    result = if rest = [] then home else home.join (ofChars rest)
  inside : home.components <+: result.components
  absolute : result.isAbsolute = true
  resolved : ∀ base, resolve (some home) base p = result

theorem resolve_of_isAbsolute {home : Option Path} (h : (p.expandHome home).isAbsolute = true)
    (base : Option Path) : resolve home base p = p.expandHome home := by
  cases base with
  | none => rfl
  | some dir => rw [resolve, join, if_pos h]

theorem atHome_expandHome (hhome : home.isAbsolute = true) (h : p.NamesHome) :
    AtHome home p (p.expandHome (some home)) := by
  obtain ⟨rest, hp, hrest⟩ := namesHome_iff.mp h
  have hresult := expandHome_of_isRemainder home hp hrest
  have hplace : home.components <+: (p.expandHome (some home)).components ∧
      (p.expandHome (some home)).isAbsolute = true := by
    rw [hresult]
    by_cases hnil : rest.dropWhile isSeparator = []
    · rw [if_pos hnil]
      exact ⟨List.prefix_rfl, hhome⟩
    · rw [if_neg hnil, components_join hhome (isAbsolute_inner rest)]
      exact ⟨List.prefix_append _ _, isAbsolute_join hhome⟩
  have hsplit : p.chars =
      '~' :: (rest.takeWhile isSeparator ++ rest.dropWhile isSeparator) := by
    rw [List.takeWhile_append_dropWhile, hp]
  have hseparators : ∀ c ∈ rest.takeWhile isSeparator, isSeparator c = true :=
    List.all_eq_true.mp List.all_takeWhile
  exact ⟨⟨_, _, hsplit, hseparators, head?_dropWhile_isSeparator rest, hresult⟩, hplace.1,
    hplace.2, resolve_of_isAbsolute hplace.2⟩

/-- Every path that names the home directory, however many separators follow, becomes a path in it,
and every other path stays as it is. What has been expanded is not expanded again. -/
theorem confined_expandHome (hhome : home.isAbsolute = true) (p : Path) :
    (p.NamesHome → AtHome home p (p.expandHome (some home))) ∧
    (¬ p.NamesHome → p.expandHome (some home) = p) ∧
    (p.expandHome (some home)).expandHome (some home) = p.expandHome (some home) := by
  refine ⟨atHome_expandHome hhome, expandHome_of_not_namesHome, ?_⟩
  by_cases h : p.NamesHome
  · have habsolute := (atHome_expandHome hhome h).absolute
    exact expandHome_of_not_namesHome (not_namesHome_of_isAbsolute habsolute)
  · rw [expandHome_of_not_namesHome h, expandHome_of_not_namesHome h]

/-- Two slashes behind the tilde do not lead out of the home directory. -/
theorem confined_twoSlashes :
    isAbsolute ⟨"/home/user"⟩ = true ∧ NamesHome ⟨"~//etc/passwd"⟩ ∧
    AtHome ⟨"/home/user"⟩ ⟨"~//etc/passwd"⟩ ⟨"/home/user/etc/passwd"⟩ ∧
    resolve (some ⟨"/home/user"⟩) (some ⟨"/srv"⟩) ⟨"~//etc/passwd"⟩ =
      ⟨"/home/user/etc/passwd"⟩ ∧
    components ⟨"/home/user/etc/passwd"⟩ =
      components ⟨"/home/user"⟩ ++ [['e', 't', 'c'], ['p', 'a', 's', 's', 'w', 'd']] := by
  have hhome : isAbsolute ⟨"/home/user"⟩ = true := rfl
  have hnames : NamesHome ⟨"~//etc/passwd"⟩ := .inr (.inl ⟨"/etc/passwd".toList, rfl⟩)
  have hplace : AtHome ⟨"/home/user"⟩ ⟨"~//etc/passwd"⟩ ⟨"/home/user/etc/passwd"⟩ :=
    (confined_expandHome hhome _).1 hnames
  exact ⟨hhome, hnames, hplace, hplace.resolved _, rfl⟩

end AppConfig.Path
