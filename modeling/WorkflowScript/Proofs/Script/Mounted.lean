import WorkflowScript.Proofs.Template.Grammar
import WorkflowScript.Proofs.Text.Ascii
import WorkflowScript.Proofs.Text.Bytes
import WorkflowScript.Script.Invocation

namespace WorkflowScript.Invocation

section Letter

variable {drive : Char} (h : drive.isAlpha = true)

include h

theorem toNat_drive : 65 ≤ drive.toNat ∧ drive.toNat ≤ 90 ∨ 97 ≤ drive.toNat ∧ drive.toNat ≤ 122 :=
  (Bool.or_eq_true_iff.mp h).imp Placeholder.toNat_of_isUpper Placeholder.toNat_of_isLower

theorem utf8Size_drive : drive.utf8Size = 1 := by
  have hrange : drive.toNat ≤ 127 := by
    have hletter := toNat_drive h
    omega
  exact Char.utf8Size_eq_one_iff.mpr (UInt32.le_iff_toNat_le.mpr hrange)

theorem toLower_drive_ne : drive.toLower ≠ '\\' := by
  intro heq
  have hnat : drive.toLower.toNat = 92 := congrArg Char.toNat heq
  have hletter := toNat_drive h
  rw [Text.toNat_toLower] at hnat
  split at hnat <;> omega

end Letter

section Bytes

open Text

theorem cutAtByte?_drive {drive : Char} (h : drive.isAlpha = true) (rest : List Char) :
    cutAtByte? 2 (drive :: ':' :: rest) = some ([drive, ':'], rest) := by
  have hbytes : 2 = bytes [drive, ':'] := by
    rw [bytes, utf8Size_drive h]
    rfl
  exact cutAtByte?_eq_some_iff.mpr ⟨rfl, hbytes⟩

def mountedByBytes (path : List Char) : Option (List Char) :=
  match path[0]?, path[1]? with
  | some drive, some ':' =>
    if drive.isAlpha then
      (cutAtByte? 2 path).map fun parts => "/mnt/".toList ++ drive.toLower :: rooted (parts.2.map slash)
    else some (path.map slash)
  | _, _ => some (path.map slash)

theorem mountedByBytes_eq (path : List Char) : mountedByBytes path = some (mounted path) := by
  unfold mountedByBytes
  split
  · next drive hdrive hcolon =>
    obtain ⟨rest, rfl⟩ : ∃ rest, path = drive :: ':' :: rest := by
      rcases path with _ | ⟨c, _ | ⟨d, rest⟩⟩
      · cases hdrive
      · cases hcolon
      · cases hdrive
        cases hcolon
        exact ⟨rest, rfl⟩
    rw [mounted]
    split
    · next halpha => rw [cutAtByte?_drive halpha]; rfl
    · rfl
  · next hother =>
    rw [mounted]
    intro drive rest hpath
    rw [hpath] at hother
    exact hother drive rfl rfl

end Bytes

section Drive

variable {path rest : List Char} {drive : Char}

inductive OnDrive : List Char → Prop
  | intro {drive : Char} {rest : List Char} (h : drive.isAlpha = true) : OnDrive (drive :: ':' :: rest)

theorem mounted_of_not_onDrive (h : ¬ OnDrive path) : mounted path = path.map slash := by
  unfold mounted
  split
  · next drive rest => exact if_neg fun halpha => h (.intro halpha)
  · rfl

theorem not_onDrive_slash (path : List Char) : ¬ OnDrive ('/' :: path) := by
  intro h
  cases h with
  | intro halpha => exact absurd halpha (by decide)

theorem eq_of_slash_eq {c d : Char} (h : slash c = d) (hd : d ≠ '/') : c = d := by
  unfold slash at h
  split at h
  · exact absurd h.symm hd
  · exact h

theorem onDrive_of_map_slash (h : OnDrive (path.map slash)) : OnDrive path := by
  generalize hseen : path.map slash = seen at h
  cases h with
  | @intro drive rest halpha =>
    have hletter : drive ≠ '/' := by
      rintro rfl
      exact absurd halpha (by decide)
    obtain ⟨c, tail, rfl, hc, htail⟩ := List.map_eq_cons_iff.mp hseen
    obtain ⟨d, rest, rfl, hd, -⟩ := List.map_eq_cons_iff.mp htail
    rw [eq_of_slash_eq hc hletter, eq_of_slash_eq hd (by decide)]
    exact .intro halpha

theorem notMem_map_slash (path : List Char) : '\\' ∉ path.map slash := by
  intro hmem
  obtain ⟨c, -, hc⟩ := List.mem_map.mp hmem
  exact slash_ne c hc

def startsWithSeparator : List Char → Bool
  | c :: _ => c == '/' || c == '\\'
  | [] => false

theorem startsWithSeparator_cons_iff {c : Char} : startsWithSeparator (c :: rest) = true ↔ slash c = '/' := by
  rw [startsWithSeparator, slash, Bool.or_eq_true, beq_iff_eq, beq_iff_eq]
  split <;> simp [*]

theorem rooted_of_ne {c : Char} (h : c ≠ '/') (rest : List Char) : rooted (c :: rest) = '/' :: c :: rest := by
  unfold rooted
  split
  · next hslash => exact absurd (List.cons.inj hslash).1 h
  · rfl

theorem rooted_map_slash (path : List Char) :
    rooted (path.map slash) = (if startsWithSeparator path then [] else ['/']) ++ path.map slash := by
  cases path with
  | nil => rfl
  | cons c path =>
    rw [List.map_cons]
    by_cases h : slash c = '/'
    · rw [if_pos (startsWithSeparator_cons_iff.mpr h), h]
      rfl
    · rw [if_neg (mt startsWithSeparator_cons_iff.mp h), rooted_of_ne h]
      rfl

theorem mounted_drive (h : drive.isAlpha = true) (rest : List Char) : mounted (drive :: ':' :: rest) =
    "/mnt/".toList ++ drive.toLower ::
      ((if startsWithSeparator rest then [] else ['/']) ++ rest.map slash) := by
  rw [mounted, if_pos h, rooted_map_slash]

theorem notMem_mounted (path : List Char) : '\\' ∉ mounted path := by
  by_cases h : OnDrive path
  · cases h with
    | @intro drive rest halpha =>
      rw [mounted_drive halpha]
      split <;> simp [notMem_map_slash, (toLower_drive_ne halpha).symm]
  · rw [mounted_of_not_onDrive h]
    exact notMem_map_slash path

theorem not_onDrive_mounted (path : List Char) : ¬ OnDrive (mounted path) := by
  by_cases h : OnDrive path
  · cases h with
    | intro halpha =>
      rw [mounted_drive halpha]
      exact not_onDrive_slash _
  · rw [mounted_of_not_onDrive h]
    exact mt onDrive_of_map_slash h

theorem mounted_mounted (path : List Char) : mounted (mounted path) = mounted path := by
  rw [mounted_of_not_onDrive (not_onDrive_mounted path), map_slash_of_notMem (notMem_mounted path)]

end Drive

theorem mounted_normalised (path : List Char) :
    mountedByBytes path = some (mounted path) ∧
    '\\' ∉ mounted path ∧
    (∀ drive rest, path = drive :: ':' :: rest → drive.isAlpha = true →
      Text.cutAtByte? 2 path = some ([drive, ':'], rest) ∧
        mounted path = "/mnt/".toList ++ drive.toLower ::
          ((if startsWithSeparator rest then [] else ['/']) ++ rest.map slash)) ∧
    (¬ OnDrive path → mounted path = path.map slash ∧ (mounted path).length = path.length) ∧
    mounted (mounted path) = mounted path := by
  refine ⟨mountedByBytes_eq path, notMem_mounted path, ?_, ?_, mounted_mounted path⟩
  · rintro drive rest rfl halpha
    exact ⟨cutAtByte?_drive halpha rest, mounted_drive halpha rest⟩
  · intro h
    have hseen := mounted_of_not_onDrive h
    exact ⟨hseen, by rw [hseen, List.length_map]⟩

theorem mounted_of_letters :
    (Text.cutAtByte? 2 "D:a\\é.sh".toList = some ("D:".toList, "a\\é.sh".toList) ∧
      mounted "D:a\\é.sh".toList = "/mnt/d/a/é.sh".toList) ∧
    mounted "é:\\a".toList = "é:/a".toList ∧ (mounted "é:\\a".toList).length = 4 := by
  obtain ⟨-, -, hdrive, -⟩ := mounted_normalised "D:a\\é.sh".toList
  obtain ⟨-, -, -, hother, -⟩ := mounted_normalised "é:\\a".toList
  have hletter : ¬ OnDrive "é:\\a".toList := by
    intro h
    cases h with
    | intro halpha => exact absurd halpha (by decide)
  obtain ⟨hcut, hseen⟩ := hdrive 'D' _ rfl (by decide)
  exact ⟨⟨hcut, hseen⟩, hother hletter⟩

end WorkflowScript.Invocation
