import Mathlib.Data.List.TakeWhile
import Mathlib.Tactic.Conv

/-!
# Profiles

The profiles and entry points that the driver offers, with the environment variables that open the
experimental ones. `RK_VAAPI_EXPERIMENTAL_ENCODE` is a list of codecs.
-/

namespace RockchipVaapi.Config

/-- The `VAProfile`s that the driver tells apart. -/
inductive VAProfile
  | h264ConstrainedBaseline
  | h264Main
  | h264High
  | h264High10
  | hevcMain
  | hevcMain10
  | vp8Version03
  | vp9Profile0
  | vp9Profile2
  | av1Profile0
  | av1Profile1
  | other (value : Int)
  deriving DecidableEq, Repr

inductive VAEntrypoint
  | vld
  | encSlice
  | other (value : Int)
  deriving DecidableEq, Repr

/-- The bytes of a C string, without the 0 at its end. -/
abbrev CString := List UInt8

def ascii (chars : List Char) : CString := chars.map fun c => UInt8.ofNat c.toNat

/-- `RK_VAAPI_EXPERIMENTAL_PROFILES` and `RK_VAAPI_EXPERIMENTAL_ENCODE`, where they are set. -/
structure Environment where
  experimentalProfiles : Option CString
  experimentalEncode : Option CString

/-! ## The variables -/

/-- `experimental_profile_enabled` (`rockchip_drv_video.c:86-94`). -/
def experimentalProfileEnabled (env : Environment) (profile : CString) : Bool :=
  match env.experimentalProfiles with
  | none => false
  | some enabled =>
    if enabled = [] ∨ enabled = ascii ['0'] then false
    else enabled == ascii ['1'] || enabled == ascii ['a', 'l', 'l'] || enabled == profile

def isSeparator (c : UInt8) : Bool := c == 0x2c || c == 0x20 || c == 0x09

/-- The loop of `experimental_encode_enabled` (`rockchip_drv_video.c:105-116`). -/
def scanTokens (codec : CString) (cursor : CString) : Bool :=
  match cursor with
  | [] => false
  | c :: rest =>
    let start := (c :: rest).dropWhile isSeparator
    let token := start.takeWhile fun c => !isSeparator c
    if token = codec then true
    else scanTokens codec (start.dropWhile fun c => !isSeparator c)
termination_by cursor.length
decreasing_by
  cases separator : isSeparator c with
  | true =>
    have skipped := (List.dropWhile_sublist isSeparator (l := rest)).length_le
    have taken := (List.dropWhile_sublist (fun c => !isSeparator c)
      (l := rest.dropWhile isSeparator)).length_le
    simp only [List.dropWhile_cons, separator, if_true, List.length_cons]
    omega
  | false =>
    have taken := (List.dropWhile_sublist (fun c => !isSeparator c) (l := rest)).length_le
    simp [separator]
    omega

/-- `experimental_encode_enabled` (`rockchip_drv_video.c:96-118`). -/
def experimentalEncodeEnabled (env : Environment) (codec : CString) : Bool :=
  match env.experimentalEncode with
  | none => false
  | some enabled =>
    if enabled = [] ∨ enabled = ascii ['0'] then false
    else if enabled = ascii ['1'] ∨ enabled = ascii ['a', 'l', 'l'] then true
    else scanTokens codec enabled

def hevcMain10Name : CString := ascii ['h', 'e', 'v', 'c', '-', 'm', 'a', 'i', 'n', '1', '0']

def vp9Profile2Name : CString :=
  ascii ['v', 'p', '9', '-', 'p', 'r', 'o', 'f', 'i', 'l', 'e', '2']

def h264Name : CString := ascii ['h', '2', '6', '4']

def hevcName : CString := ascii ['h', 'e', 'v', 'c']

/-! ## The profiles -/

/-- `decode_profile_supported` (`rockchip_drv_video.c:120-135`). -/
def decodeProfileSupported (env : Environment) : VAProfile → Bool
  | .h264Main | .h264High | .vp9Profile0 | .hevcMain => true
  | .hevcMain10 => experimentalProfileEnabled env hevcMain10Name
  | .vp9Profile2 => experimentalProfileEnabled env vp9Profile2Name
  | _ => false

/-- `encode_profile_supported` (`rockchip_drv_video.c:137-144`). -/
def encodeProfileSupported (env : Environment) (profile : VAProfile) : Bool :=
  ((profile == .h264Main || profile == .h264High) && experimentalEncodeEnabled env h264Name) ||
    (profile == .hevcMain && experimentalEncodeEnabled env hevcName)

/-- `profile_supported` (`rockchip_drv_video.c:146-150`). -/
def profileSupported (env : Environment) (profile : VAProfile) : Bool :=
  decodeProfileSupported env profile || encodeProfileSupported env profile

/-- The errors of the functions of a configuration. -/
inductive VAError
  | unsupportedProfile
  | unsupportedEntrypoint
  | invalidConfig
  | unsupportedRtFormat
  | attrNotSupported
  | invalidParameter
  | allocationFailed
  | maxNumExceeded
  | resolutionNotSupported
  deriving DecidableEq, Repr

/-- `rk_QueryConfigProfiles` (`rockchip_drv_video.c:175-190`). -/
def rkQueryConfigProfiles (env : Environment) : List VAProfile :=
  [.h264Main, .h264High, .vp9Profile0] ++
    [.hevcMain, .hevcMain10, .vp9Profile2].filter fun profile => profileSupported env profile

/-- `rk_QueryConfigEntrypoints` (`rockchip_drv_video.c:192-205`). -/
def rkQueryConfigEntrypoints (env : Environment) (profile : VAProfile) :
    Except VAError (List VAEntrypoint) :=
  if profileSupported env profile = false then .error .unsupportedProfile
  else
    .ok ((if decodeProfileSupported env profile then [.vld] else []) ++
      if encodeProfileSupported env profile then [.encSlice] else [])

/-! ## The list of codecs -/

/-- Separators in front of a list add no words to it. -/
theorem mem_splitOnP_dropWhile {α : Type} {p : α → Bool} {word : List α} (some : word ≠ [])
    (xs : List α) : word ∈ (xs.dropWhile p).splitOnP p ↔ word ∈ xs.splitOnP p := by
  induction xs with
  | nil => rfl
  | cons x xs ih =>
    cases separator : p x with
    | false => simp [separator]
    | true =>
      rw [List.dropWhile_cons_of_pos separator, ih]
      simp [List.splitOnP_cons_eq_if_modifyHead, separator, some]

/-- The first word of a list that does not begin with a separator, and the words behind it. -/
theorem mem_splitOnP_takeWhile {α : Type} {p : α → Bool} {word : List α} (some : word ≠ [])
    (xs : List α) :
    word ∈ xs.splitOnP p ↔ xs.takeWhile (fun x => !p x) = word ∨
      word ∈ (xs.dropWhile fun x => !p x).splitOnP p := by
  have first : ∀ x ∈ xs.takeWhile fun x => !p x, p x = false := by
    intro x mem
    simpa using List.mem_takeWhile_imp mem
  conv_lhs => rw [← List.takeWhile_append_dropWhile (p := fun x => !p x) (l := xs)]
  cases rest : xs.dropWhile fun x => !p x with
  | nil => simp [List.splitOnP_eq_singleton first, some, eq_comm]
  | cons x more =>
    have separator : p x = true := by
      have stops := List.head_dropWhile_not (fun x => !p x) (l := xs) (by simp [rest])
      simpa [rest] using stops
    rw [List.splitOnP_append_cons_of_forall_mem first x separator more]
    simp [List.splitOnP_cons_eq_if_modifyHead, separator, some, eq_comm]

/-- The loop finds the words between separators, and nothing else. -/
theorem scanTokens_iff {codec : CString} (some : codec ≠ []) (cursor : CString) :
    scanTokens codec cursor = true ↔ codec ∈ cursor.splitOnP isSeparator := by
  induction cursor using scanTokens.induct codec with
  | case1 => simp [scanTokens, some]
  | case2 c rest start token same =>
    rw [scanTokens]
    simp only [start, token] at same
    rw [if_pos same, ← mem_splitOnP_dropWhile some, mem_splitOnP_takeWhile some]
    simp [same]
  | case3 c rest start token other ih =>
    rw [scanTokens]
    simp only [start, token] at other ih
    rw [if_neg other, ih, ← mem_splitOnP_dropWhile some (c :: rest),
      mem_splitOnP_takeWhile some ((c :: rest).dropWhile isSeparator)]
    simp [other]

/-! ## What is offered -/

/-- An application that asks for the profiles and then for the entry points of one finds both. -/
def Advertised (env : Environment) (profile : VAProfile) (entrypoint : VAEntrypoint) : Prop :=
  profile ∈ rkQueryConfigProfiles env ∧
    ∃ list, rkQueryConfigEntrypoints env profile = .ok list ∧ entrypoint ∈ list

theorem mem_rkQueryConfigProfiles (env : Environment) (profile : VAProfile) :
    profile ∈ rkQueryConfigProfiles env ↔ profileSupported env profile = true := by
  have main : profileSupported env .h264Main = true := rfl
  have high : profileSupported env .h264High = true := rfl
  have vp9 : profileSupported env .vp9Profile0 = true := rfl
  cases profile <;> simp [rkQueryConfigProfiles, main, high, vp9]
  all_goals simp [profileSupported, decodeProfileSupported, encodeProfileSupported]

theorem advertised_supported (env : Environment) (profile : VAProfile) (entrypoint : VAEntrypoint) :
    Advertised env profile entrypoint ↔
      entrypoint = .vld ∧ decodeProfileSupported env profile = true ∨
        entrypoint = .encSlice ∧ encodeProfileSupported env profile = true := by
  rw [Advertised, mem_rkQueryConfigProfiles, rkQueryConfigEntrypoints]
  cases decodes : decodeProfileSupported env profile <;>
    cases encodes : encodeProfileSupported env profile <;>
      simp [profileSupported, decodes, encodes]

/-- What the value of `RK_VAAPI_EXPERIMENTAL_ENCODE` opens. -/
def EncodeOpen (env : Environment) (codec : CString) : Prop :=
  ∃ value, env.experimentalEncode = some value ∧ value ≠ ascii ['0'] ∧
    (value = ascii ['1'] ∨ value = ascii ['a', 'l', 'l'] ∨ codec ∈ value.splitOnP isSeparator)

theorem experimentalEncodeEnabled_iff {codec : CString} (some : codec ≠ []) (env : Environment) :
    experimentalEncodeEnabled env codec = true ↔ EncodeOpen env codec := by
  unfold experimentalEncodeEnabled EncodeOpen
  cases env.experimentalEncode with
  | none => simp
  | some value =>
    simp only [Option.some.injEq, exists_eq_left']
    by_cases empty : value = []
    · subst empty
      simp [ascii, some]
    · by_cases zero : value = ascii ['0']
      · simp [zero]
      · rw [if_neg (by simp [empty, zero])]
        by_cases all : value = ascii ['1'] ∨ value = ascii ['a', 'l', 'l']
        · rw [if_pos all]
          exact iff_of_true rfl ⟨zero, all.elim .inl fun all => .inr (.inl all)⟩
        · rw [if_neg all, scanTokens_iff some]
          refine ⟨fun listed => ⟨zero, .inr (.inr listed)⟩, fun opened => ?_⟩
          rcases opened.2 with one | every | listed
          · exact absurd (.inl one) all
          · exact absurd (.inr every) all
          · exact listed

/-- What the value of `RK_VAAPI_EXPERIMENTAL_PROFILES` opens. -/
def ProfileOpen (env : Environment) (name : CString) : Prop :=
  ∃ value, env.experimentalProfiles = some value ∧
    (value = ascii ['1'] ∨ value = ascii ['a', 'l', 'l'] ∨ value = name)

theorem experimentalProfileEnabled_iff {name : CString} (some : name ≠ [])
    (zero : name ≠ ascii ['0']) (env : Environment) :
    experimentalProfileEnabled env name = true ↔ ProfileOpen env name := by
  unfold experimentalProfileEnabled ProfileOpen
  cases env.experimentalProfiles with
  | none => simp
  | some value =>
    simp only [Option.some.injEq, exists_eq_left']
    by_cases off : value = [] ∨ value = ascii ['0']
    · rw [if_pos off]
      rcases off with rfl | rfl
      · simp [ascii, some.symm]
      · simp only [Bool.false_eq_true, false_iff, not_or]
        exact ⟨by decide, by decide, zero.symm⟩
    · rw [if_neg off]
      simp [or_assoc]

/-- For every value of the two variables, the pairs of a profile and an entry point that are offered:
what is validated, and what a variable opens by `1`, by `all` or by name. -/
theorem advertised_iff (env : Environment) (profile : VAProfile) (entrypoint : VAEntrypoint) :
    Advertised env profile entrypoint ↔
      entrypoint = .vld ∧ (profile ∈ [.h264Main, .h264High, .vp9Profile0, .hevcMain] ∨
        profile = .hevcMain10 ∧ ProfileOpen env hevcMain10Name ∨
        profile = .vp9Profile2 ∧ ProfileOpen env vp9Profile2Name) ∨
      entrypoint = .encSlice ∧ (profile ∈ [.h264Main, .h264High] ∧ EncodeOpen env h264Name ∨
        profile = .hevcMain ∧ EncodeOpen env hevcName) := by
  rw [advertised_supported]
  have main10 := experimentalProfileEnabled_iff (by decide) (by decide : hevcMain10Name ≠ _) env
  have profile2 := experimentalProfileEnabled_iff (by decide) (by decide : vp9Profile2Name ≠ _) env
  have h264 := experimentalEncodeEnabled_iff (by decide : h264Name ≠ []) env
  have hevc := experimentalEncodeEnabled_iff (by decide : hevcName ≠ []) env
  cases profile <;>
    simp [decodeProfileSupported, encodeProfileSupported, main10, profile2, h264, hevc]

end RockchipVaapi.Config
