import AppConfig.Compile
import AppConfig.Proofs.Document.Faults
import AppConfig.Proofs.Document.Notes
import AppConfig.Proofs.Journal.Shown
import AppConfig.Proofs.Journal.Unless
import AppConfig.Proofs.Json.Comments

/-! # The version of a compiled document

* `Version.leadingNumbers`: the numbers of the first two groups of a text.
* `Plan.gate`: what validation makes of a plan.
* `readParts`: what a document says besides its version. `shows_compileText`: the parts are read,
  then the version is put in, and the gate comes last.
* `versionGate_of_compileText`: of two texts that differ in an accepted version, what becomes of
  one and what becomes of the other.
-/

namespace AppConfig
set_option autoImplicit false
open Outcome

/-! ## Numbers that are looked up -/

namespace Version

/-- The numbers of the first two groups; a missing group counts as zero. -/
def leadingNumbers (s : String) : List Nat :=
  ((Text.splitOn '.' s.toList).map (Number.natural 0) ++ [0, 0]).take 2

/-- The first two groups are a pair on the list of supported versions. -/
def IsSupportedText (s : String) : Prop :=
  ∃ pair ∈ supportedVersions, leadingNumbers s = [pair.1.toNat, pair.2.toNat]

instance (s : String) : Decidable (IsSupportedText s) := inferInstanceAs
  (Decidable (∃ pair ∈ supportedVersions, leadingNumbers s = [pair.1.toNat, pair.2.toNat]))

variable {v v' : Version} {s : String}

theorem IsWritten.leadingNumbers_eq (h : v.IsWritten s) :
    leadingNumbers s = [v.major.toNat, v.minor.toNat] := by
  have htake : ∀ groups : List Nat,
      ((groups ++ [0, 0, 0, 0]).take 4).take 2 = (groups ++ [0, 0]).take 2 := by
    intro groups
    match groups with
    | [] | [_] | _ :: _ :: _ => simp
  rw [leadingNumbers, ← htake, ← h.numbers]
  rfl

theorem IsWritten.isSupported_iff (h : v.IsWritten s) :
    isSupported v supportedVersions = true ↔ IsSupportedText s := by
  simp only [isSupported, List.any_eq_true, IsSupportedText, h.leadingNumbers_eq, Bool.and_eq_true,
    decide_eq_true_eq, List.cons.injEq, UInt64.toNat_inj, and_true]

theorem isSupported_congr (hmajor : v'.major = v.major) (hminor : v'.minor = v.minor)
    (allowed : List (UInt64 × UInt64)) : isSupported v' allowed = isSupported v allowed := by
  rw [isSupported, isSupported, hmajor, hminor]

end Version

/-! ## Validation -/

namespace Plan

/-- The fault of a version that is not on the list. -/
def unsupported (p : Plan) : Fault :=
  .unsupportedVersion s!"{p.version.major}.{p.version.minor}" (displayAllowed supportedVersions)

/-- What validation makes of a plan. -/
def gate (p : Plan) : Except Fault Plan :=
  if isSupported p.version supportedVersions then .ok p else .error p.unsupported

variable {p : Plan}

theorem gate_of_supported (h : isSupported p.version supportedVersions = true) :
    p.gate = .ok p := if_pos h

theorem gate_of_not_supported (h : ¬ isSupported p.version supportedVersions = true) :
    p.gate = .error p.unsupported := if_neg h

/-- The steps after that of the version accept every plan. -/
theorem validate_eq (p : Plan) : p.validate = p.checkVersion >>= fun _ =>
    ([.platform, .language, .protocol, .messages] : List ValidationStep).forM fun step =>
      .log (.stepSkipped step.text) := rfl

theorem shows_validated (p : Plan) : Shows p.gate [] (p.validate >>= fun _ => pure p) := by
  rw [validate_eq]
  by_cases h : isSupported p.version supportedVersions = true
  · have hcheck : p.checkVersion = .log (.versionAccepted p.version) := if_pos h
    rw [hcheck, gate_of_supported h]
    exact ⟨rfl, rfl⟩
  · have hcheck : p.checkVersion = .fail p.unsupported := if_neg h
    rw [hcheck, gate_of_not_supported h]
    exact ⟨rfl, rfl⟩

end Plan

/-! ## Documents -/

namespace Document
open Fields (present?)

variable {o o' : Members} {site : Site} {v : Version}

/-- What a document says besides its version. -/
def readParts (site : Site) (o : Members) : Outcome (Platform × Language × List App) := do
  let platform ← Fields.code Platform o "platform"
  let language ← Fields.code Language o "lang"
  let apps ← readApps site o
  return (platform, language, apps)

def planOf (version : Version) : Platform × Language × List App → Plan :=
  fun (platform, language, apps) => { platform, language, version, apps, customMessages := [] }

theorem shows_readDocument (site : Site) (hv : (readVersion o).result = .ok v) :
    Shows ((readParts site o).result.map (planOf v))
      (versionNotes o ++ (readParts site o).journal.diagnostics)
      (readDocument site (.object o)) := by
  have hparts : readDocument site (.object o) = readVersion o >>= fun version =>
      readParts site o >>= fun parts =>
        Outcome.log (.planRead version (Coded.name parts.1) (Coded.name parts.2.1)
          parts.2.2.length) >>= fun _ => pure (planOf version parts) := by
    simp only [readDocument, readParts, asObject_object, pure_bind, bind_assoc, planOf]
  have hversion : Shows (.ok v) (versionNotes o) (readVersion o) := ⟨hv, readVersion_diagnostics o⟩
  rw [hparts]
  exact hversion.bind ((Shows.self _).told _ _)

/-- What becomes of the parts of a document with a version. -/
def gated (v : Version) (parts : Except Fault (Platform × Language × List App)) :
    Except Fault Plan := parts.bind fun parts => (planOf v parts).gate

/-- The objects have these versions and are otherwise the same. -/
structure DifferInVersion (s s' : String) (o o' : Members) : Prop where
  version : present? o "wolfes_version" = some (.string s)
  version' : present? o' "wolfes_version" = some (.string s')
  others : ∀ key, key ≠ "wolfes_version" → present? o' key = present? o key

theorem DifferInVersion.readParts_eq {s s' : String} (h : DifferInVersion s s' o o') :
    readParts site o' = readParts site o := by
  have hplatform : Fields.code Platform o' "platform" = Fields.code Platform o "platform" :=
    Fields.code_congr (h.others "platform" (by decide)) Platform
  have hlanguage : Fields.code Language o' "lang" = Fields.code Language o "lang" :=
    Fields.code_congr (h.others "lang" (by decide)) Language
  have happs : readApps site o' = readApps site o := readApps_congr (h.others "apps" (by decide))
  rw [readParts, readParts, hplatform, hlanguage, happs]

end Document

/-! ## Texts -/

open Document Fields

theorem decode_diagnostics (text : String) : (decode text).journal.diagnostics = [] := by
  unfold decode
  split <;> rfl

section Texts
variable {text : String} {o : Members} {v v' : Version}

/-- The version is put in last, and then looked up. -/
theorem shows_compileText (host : Host) (base : Option Path)
    (hdoc : (decode text).result = .ok (.object o)) (hv : (readVersion o).result = .ok v) :
    Shows (gated v (readParts (host.site base) o).result)
      (versionNotes o ++ (readParts (host.site base) o).journal.diagnostics)
      (compileText host base text) := by
  have hdecode : Shows (.ok (.object o)) [] (decode text) := ⟨hdoc, decode_diagnostics text⟩
  have hplan := (shows_readDocument (host.site base) hv).bind_silent
    fun plan => plan.shows_validated
  have hgated : ((readParts (host.site base) o).result.map (planOf v)).bind Plan.gate =
      gated v (readParts (host.site base) o).result := by
    cases (readParts (host.site base) o).result <;> rfl
  rw [hgated] at hplan
  exact hdecode.silent_bind hplan

/-! ## Two versions -/

/-- The diagnostics but for those of groups that are dropped. -/
def besidesGroups (ds : Diagnostics) : Diagnostics :=
  ds.filter fun d => d.code ≠ .versionGroupsDiscarded

/-- The same fault, or plans that differ at most in the last two numbers of their versions. -/
inductive AlikeButBuild : Except Fault Plan → Except Fault Plan → Prop
  | refused (fault : Fault) : AlikeButBuild (.error fault) (.error fault)
  | planned (plan : Plan) (patch build : UInt64) :
    AlikeButBuild (.ok plan) (.ok { plan with version := { plan.version with patch, build } })

def IsUnsupported (fault : Fault) : Prop :=
  ∃ version supported, fault = .unsupportedVersion version supported

theorem besidesGroups_versionNotes (o : Members) (ds : Diagnostics) :
    besidesGroups (versionNotes o ++ ds) = besidesGroups ds := by
  have hnone : besidesGroups (versionNotes o) = [] := by
    refine List.filter_eq_nil_iff.mpr fun d hd => ?_
    unfold versionNotes at hd
    split at hd
    · obtain ⟨e, he, rfl⟩ := List.mem_map.mp hd
      have hcode : (e.under (.field "wolfes_version")).code = .versionGroupsDiscarded :=
        (Version.mem_notes he).2.1
      simp [hcode]
    · cases hd
  rw [besidesGroups, List.filter_append]
  exact congrArg (· ++ _) hnone

/-- Nothing but the gate refuses a version for not being supported. -/
theorem not_isUnsupported {site : Site} (hv : (readVersion o).result = .ok v) :
    FaultsIn (fun fault => ¬ IsUnsupported fault) (readParts site o) := by
  rintro fault hfault ⟨version, supported, rfl⟩
  have hresult := (shows_readDocument site hv).result
  rw [hfault] at hresult
  exact (faults_readDocument (.object o) _ hresult).holds

/-- Versions with the same first two numbers meet the same gate. -/
theorem alikeButBuild_gated (hmajor : v'.major = v.major) (hminor : v'.minor = v.minor)
    (parts : Except Fault (Platform × Language × List App)) :
    AlikeButBuild (gated v parts) (gated v' parts) := by
  rcases parts with fault | parts
  · exact .refused fault
  show AlikeButBuild (planOf v parts).gate (planOf v' parts).gate
  have hversion : ∀ v : Version, (planOf v parts).version = v := fun _ => rfl
  have hsame := Version.isSupported_congr hmajor hminor supportedVersions
  by_cases hsupported : isSupported v supportedVersions = true
  · rw [Plan.gate_of_supported (p := planOf v parts) hsupported,
      Plan.gate_of_supported (p := planOf v' parts) (hsame.trans hsupported)]
    have hplan : planOf v' parts = { planOf v parts with
        version := { v with patch := v'.patch, build := v'.build } } := by
      cases v
      cases v'
      subst hmajor hminor
      rfl
    rw [hplan]
    exact .planned _ _ _
  · rw [Plan.gate_of_not_supported (p := planOf v parts) hsupported,
      Plan.gate_of_not_supported (p := planOf v' parts) fun h => hsupported (hsame ▸ h),
      Plan.unsupported, Plan.unsupported, hversion, hversion, hmajor, hminor]
    exact .refused _

/-- With a version that is not supported, parts that would make a plan are refused for it, and others
for what they are refused for anyway. -/
theorem gated_of_not_supported {parts : Except Fault (Platform × Language × List App)}
    (hbad : ¬ isSupported v supportedVersions = true)
    (hgood : isSupported v' supportedVersions = true)
    (hparts : ∀ fault, parts = .error fault → ¬ IsUnsupported fault) :
    ((∃ fault, gated v parts = .error fault ∧ IsUnsupported fault) ↔
      ∃ plan, gated v' parts = .ok plan) ∧
    ∀ fault, gated v' parts = .error fault → gated v parts = .error fault := by
  rcases parts with fault | parts
  · refine ⟨⟨?_, ?_⟩, fun fault' hfault' => hfault'⟩
    · rintro ⟨fault', hfault', hunsupported⟩
      obtain rfl : fault = fault' := Except.error.inj hfault'
      exact absurd hunsupported (hparts fault rfl)
    · rintro ⟨plan, hplan⟩
      cases hplan
  · have hrefused : gated v (.ok parts) = .error (planOf v parts).unsupported :=
      Plan.gate_of_not_supported hbad
    have hplan : gated v' (.ok parts) = .ok (planOf v' parts) := Plan.gate_of_supported hgood
    refine ⟨⟨fun _ => ⟨_, hplan⟩, fun _ => ⟨_, hrefused, _, _, rfl⟩⟩, fun fault hfault => ?_⟩
    cases hplan.symm.trans hfault

/-- A version is looked up by its first two numbers, after everything else. Two texts that differ in
an accepted version leave the same diagnostics but for that of the version. If the first two numbers
are equal, so are the faults, or the plans but for the other two numbers. If the first version is not
supported and the second is, the first text is refused for it exactly where the second makes a plan,
and otherwise ends with the fault of the second. -/
theorem versionGate_of_compileText (host : Host) (base : Option Path)
    {text text' s s' : String} {o o' : Members} (hdoc : (decode text).result = .ok (.object o))
    (hdoc' : (decode text').result = .ok (.object o')) (h : DifferInVersion s s' o o')
    (hs : ∃ v, (Version.ofText s).result = .ok v) (hs' : ∃ v, (Version.ofText s').result = .ok v) :
    (Version.leadingNumbers s' = Version.leadingNumbers s →
      AlikeButBuild (compileText host base text).result (compileText host base text').result) ∧
    besidesGroups (compileText host base text').journal.diagnostics =
      besidesGroups (compileText host base text).journal.diagnostics ∧
    (¬ Version.IsSupportedText s → Version.IsSupportedText s' →
      (EndsIn IsUnsupported (compileText host base text) ↔
        ∃ plan, (compileText host base text').result = .ok plan) ∧
      ∀ fault, (compileText host base text').result = .error fault →
        (compileText host base text).result = .error fault) := by
  obtain ⟨v, hv⟩ := hs
  obtain ⟨v', hv'⟩ := hs'
  have hwritten : v.IsWritten s := Version.ofText_result_ok.mp hv
  have hwritten' : v'.IsWritten s' := Version.ofText_result_ok.mp hv'
  have hread : (readVersion o).result = .ok v :=
    readVersion_result_ok.mpr ⟨s, h.version, hwritten⟩
  have hread' : (readVersion o').result = .ok v' :=
    readVersion_result_ok.mpr ⟨s', h.version', hwritten'⟩
  obtain ⟨hresult, hnotes⟩ := shows_compileText host base hdoc hread
  obtain ⟨hresult', hnotes'⟩ := shows_compileText host base hdoc' hread'
  rw [h.readParts_eq] at hresult' hnotes'
  refine ⟨fun hnumbers => ?_, ?_, fun hbad hgood => ?_⟩
  · rw [hwritten.leadingNumbers_eq, hwritten'.leadingNumbers_eq] at hnumbers
    injection hnumbers with hmajor hminor
    injection hminor with hminor
    rw [hresult, hresult']
    exact alikeButBuild_gated (UInt64.toNat_inj.mp hmajor) (UInt64.toNat_inj.mp hminor) _
  · rw [hnotes, hnotes', besidesGroups_versionNotes, besidesGroups_versionNotes]
  · rw [← hwritten.isSupported_iff] at hbad
    rw [← hwritten'.isSupported_iff] at hgood
    rw [EndsIn, hresult, hresult']
    exact gated_of_not_supported hbad hgood (not_isUnsupported hread)

end Texts

/-! ## A document without apps

Its text is that of an object with the four keys that a document has to have. -/

def textBefore : List Char :=
  ['\x7b', '"', 'w', 'o', 'l', 'f', 'e', 's', '_', 'v', 'e', 'r', 's', 'i', 'o', 'n', '"', ':', '"']

def textAfter : List Char :=
  ['"', ',', '"', 'p', 'l', 'a', 't', 'f', 'o', 'r', 'm', '"', ':', '0', ',',
   '"', 'l', 'a', 'n', 'g', '"', ':', '0', ',', '"', 'a', 'p', 'p', 's', '"', ':', '[', ']', '\x7d']

def textWith (version : String) : String :=
  String.ofList (textBefore ++ version.toList ++ textAfter)

/-- The members in the order of the text. -/
def writtenWith (version : String) : Members :=
  [("wolfes_version", .string version), ("platform", .int 0), ("lang", .int 0), ("apps", .list [])]

/-- The members in the order of their keys. -/
def membersWith (version : String) : Members :=
  [("apps", .list []), ("lang", .int 0), ("platform", .int 0), ("wolfes_version", .string version)]

theorem canonical_writtenWith (version : String) :
    (Json.object (writtenWith version)).canonical = .object (membersWith version) := by
  simp only [writtenWith, membersWith, Json.canonical, Json.canonicalMembers, Json.canonicalItems,
    Members.sorted, List.foldl_cons, List.foldl_nil, Members.insert, String.reduceLT, reduceIte]

theorem differInVersion_membersWith (s s' : String) :
    DifferInVersion s s' (membersWith s) (membersWith s') := by
  refine ⟨rfl, rfl, fun key hkey => ?_⟩
  refine present?_cons_congr (present?_cons_congr (present?_cons_congr ?_ _) _) _
  rw [present?_cons_of_ne hkey.symm, present?_cons_of_ne hkey.symm]

theorem decode_textWith {version : String} (digits : List Char) (h : version.toList = digits)
    (hread : Json.read (textBefore ++ digits ++ textAfter) =
      .ok (.object (writtenWith version))) :
    (decode (textWith version)).result = .ok (.object (membersWith version)) := by
  rw [decode_result_ok, textWith, String.toList_ofList, h, Json.decode, Json.read_uncomment hread,
    ← canonical_writtenWith]
  rfl

/-- A machine without files. -/
def emptyHost : Host := ⟨some ⟨"/home/user"⟩, fun _ => false, fun _ => .error .notFound⟩

theorem versionGate_of_textWith :
    AlikeButBuild (compileText emptyHost none (textWith "1.0")).result
      (compileText emptyHost none (textWith "01.00.3.4.5")).result ∧
    (EndsIn IsUnsupported (compileText emptyHost none (textWith "2.0")) ↔
      ∃ plan, (compileText emptyHost none (textWith "1.0")).result = .ok plan) := by
  have hfirst : (decode (textWith "1.0")).result = .ok (.object (membersWith "1.0")) :=
    decode_textWith ['1', '.', '0'] rfl rfl
  have hlong : (decode (textWith "01.00.3.4.5")).result =
      .ok (.object (membersWith "01.00.3.4.5")) :=
    decode_textWith ['0', '1', '.', '0', '0', '.', '3', '.', '4', '.', '5'] rfl rfl
  have hother : (decode (textWith "2.0")).result = .ok (.object (membersWith "2.0")) :=
    decode_textWith ['2', '.', '0'] rfl rfl
  have hsame := versionGate_of_compileText emptyHost none hfirst hlong
    (differInVersion_membersWith _ _) ⟨_, rfl⟩ ⟨_, rfl⟩
  have hbad := versionGate_of_compileText emptyHost none hother hfirst
    (differInVersion_membersWith _ _) ⟨_, rfl⟩ ⟨_, rfl⟩
  have hnumbers : Version.leadingNumbers "01.00.3.4.5" = Version.leadingNumbers "1.0" := rfl
  have hunsupported : ¬ Version.IsSupportedText "2.0" := by decide
  have hsupported : Version.IsSupportedText "1.0" := by decide
  exact ⟨hsame.1 hnumbers, (hbad.2.2 hunsupported hsupported).1⟩

end AppConfig
