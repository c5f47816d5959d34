import DeviceAndroVM.BdVbox.Utf16Names
import DeviceAndroVM.Library.StringBlock

/-!
# The commands that mount shared folders

What `listSharedFolders` of `androVM-vbox-sf.cpp` does with the name of a folder.

* `mountFolder` — the path of the folder and the command; there is no result when a block is left.
* `NameFits` — the names and roots for which the command fits its block.
* `mountFolder_ne_none_iff` — nothing is written behind a block exactly for these.
-/

namespace DeviceAndroVM
namespace BdVbox

open Library Library.Utf16 Library.CString

/-! ## The code -/

/-- `%s/%s`. -/
def folderPath (mount_root pszName : CString) : CString :=
  mount_root ++ ofChars ['/'] ++ pszName

/-- `/system/bin/mount.vboxsf "%s" "%s/%s"`. -/
def mountCommand (mount_root pszName : CString) : CString :=
  ofChars ['/', 's', 'y', 's', 't', 'e', 'm', '/', 'b', 'i', 'n', '/', 'm', 'o', 'u', 'n', 't',
    '.', 'v', 'b', 'o', 'x', 's', 'f', ' ', '"'] ++ pszName ++ ofChars ['"', ' ', '"'] ++
      folderPath mount_root pszName ++ ofChars ['"']

/-- `sprintf`: the text and its terminator. -/
def sprintf (block : List UInt8) (text : CString) : Option (List UInt8) :=
  store block 0 (text ++ [0])

/-- The arguments of `mkdir` and `system`, formatted one after the other in one block. -/
def formatCommands (mount_cmd : List UInt8) (mount_root pszName : CString) :
    Option (CString × CString) :=
  (sprintf mount_cmd (folderPath mount_root pszName)).bind fun mount_cmd =>
    (sprintf mount_cmd (mountCommand mount_root pszName)).map fun _ =>
      (folderPath mount_root pszName, mountCommand mount_root pszName)

/-- What happens with the name of a folder: the arguments of `mkdir` and `system`, if these are
called.  `malloc` and `mallocCmd` are what the allocator answers for the sizes of the two blocks. -/
def mountFolder (malloc mallocCmd : Nat → Option (Nat → UInt8)) (mount_root : CString)
    (utf8 : List UInt16) (u16Length : Nat) : Option (Option (CString × CString)) :=
  (converUTF16toUTF8 malloc utf8 u16Length).bind fun pszName =>
    match pszName with
    | none => some none
    | some pszName =>
        (strlen pszName).bind fun length =>
          let name := pszName.take length
          -- the name counts once here, and occurs twice in the command
          match mallocCmd (length + 80) with
          | none => some none
          | some bytes =>
              (formatCommands ((List.range (length + 80)).map bytes) mount_root name).map some

/-! ## The name -/

variable {malloc mallocCmd : Nat → Option (Nat → UInt8)} {mount_root : CString}
  {name more : List UInt16}

/-- The name and its `NUL` are before the end of the length, which is in bytes. -/
theorem text_name (name more : List UInt16) :
    text (name ++ 0 :: more) (2 * name.length : Nat) = name.takeWhile (· != 0) := by
  have hlength : ((2 * name.length : Nat) : Int).toNat = name.length + name.length := by omega
  rw [text, hlength, List.take_length_add_append]
  cases name with
  | nil => rfl
  | cons u name =>
      rw [List.length_cons, List.take_succ_cons, List.takeWhile_append]
      split
      · rw [List.takeWhile_cons_of_neg (by simp), List.append_nil]
        rename_i hall
        exact ((List.takeWhile_prefix _).eq_of_length hall).symm
      · rfl

/-- The conversion of a name that the host returns stays in its block. -/
theorem fits_name (name more : List UInt16) :
    Fits (name ++ 0 :: more) (2 * name.length : Nat) := by
  obtain ⟨cs, tail, hscanned⟩ :=
    exists_scanned ((name ++ 0 :: more).take ((2 * name.length : Nat) : Int).toNat)
  refine ⟨cs, tail, hscanned, ?_⟩
  have hshort : (encodeAll cs).length ≤ name.length := by
    have htext := text_name name more
    rw [text, hscanned.split, takeWhile_encodeAll_append hscanned.go] at htext
    have hlength := congrArg List.length htext
    have hname := (List.takeWhile_prefix (l := name) (· != 0)).length_le
    rw [List.length_append] at hlength
    omega
  have hsizes := length_utf8_add cs
  have hthree : cs.countP (·.utf8Size = 3) ≤ (encodeAll cs).length := by
    refine List.countP_le_length.trans ?_
    clear hsizes hshort hscanned
    induction cs with
    | nil => rfl
    | cons c cs ih =>
        have hpositive := List.length_pos_iff.mpr (encode_ne_nil c)
        have hcons : encodeAll (c :: cs) = encode c ++ encodeAll cs := List.flatMap_cons
        rw [hcons, List.length_append, List.length_cons]
        omega
  omega

theorem length_folderPath (mount_root pszName : CString) :
    (folderPath mount_root pszName).length = mount_root.length + 1 + pszName.length := by
  rw [folderPath, List.length_append, List.length_append]
  rfl

theorem length_mountCommand (mount_root pszName : CString) :
    (mountCommand mount_root pszName).length = mount_root.length + 2 * pszName.length + 31 := by
  rw [mountCommand, List.length_append, List.length_append, List.length_append, List.length_append,
    length_folderPath]
  simp only [ofChars, List.length_map, List.length_cons, List.length_nil]
  omega

/-- Both strings are written in a block of 80 bytes more than the name has, if the second fits. -/
theorem formatCommands_ne_none_iff {mount_cmd : List UInt8} {mount_root pszName : CString}
    (hblock : mount_cmd.length = pszName.length + 80) :
    formatCommands mount_cmd mount_root pszName ≠ none ↔
      pszName.length + mount_root.length ≤ 48 := by
  have hpath := length_folderPath mount_root pszName
  have hcommand := length_mountCommand mount_root pszName
  unfold formatCommands
  constructor
  · intro h
    obtain ⟨res, hres⟩ := Option.ne_none_iff_exists'.mp h
    obtain ⟨block, hfirst, hrest⟩ := Option.bind_eq_some_iff.mp hres
    obtain ⟨block', hsecond, -⟩ := Option.map_eq_some_iff.mp hrest
    have hroom := le_of_store hsecond
    rw [length_store hfirst, List.length_append, hcommand, List.length_singleton] at hroom
    omega
  · intro h
    obtain ⟨block, hfirst⟩ : ∃ block, sprintf mount_cmd (folderPath mount_root pszName) =
        some block := by
      refine exists_store_iff.mpr ?_
      rw [List.length_append, hpath, List.length_singleton]
      omega
    obtain ⟨block', hsecond⟩ : ∃ block', sprintf block (mountCommand mount_root pszName) =
        some block' := by
      refine exists_store_iff.mpr ?_
      rw [length_store hfirst, List.length_append, hcommand, List.length_singleton]
      omega
    rw [hfirst, Option.bind_some, hsecond]
    exact Option.some_ne_none _

/-! ## The folder -/

/-- The conversion of the name stays in the block of `2 * u16Length + 1` bytes, and the two strings
in the block of the command. -/
def MountsWithin (malloc mallocCmd : Nat → Option (Nat → UInt8)) (mount_root : CString)
    (utf8 : List UInt16) (u16Length : Nat) : Prop :=
  converUTF16toUTF8 malloc utf8 u16Length ≠ none ∧
    mountFolder malloc mallocCmd mount_root utf8 u16Length ≠ none

/-- There is no block, or no name, or the bytes of the name in UTF-8 and of the root are 48 at
most. -/
def NameFits (malloc mallocCmd : Nat → Option (Nat → UInt8)) (mount_root : CString)
    (name : List UInt16) : Prop :=
  malloc (4 * name.length + 1) = none ∨ Malformed (name.takeWhile (· != 0)) ∨
    ∃ cs, name.takeWhile (· != 0) = encodeAll cs ∧
      (mallocCmd ((cs.map Char.utf8Size).sum + 80) = none ∨
        (cs.map Char.utf8Size).sum + mount_root.length ≤ 48)

theorem mountFolder_of_null {units : List UInt16} {u16Length : Nat}
    (hconver : converUTF16toUTF8 malloc units u16Length = some none) :
    mountFolder malloc mallocCmd mount_root units u16Length = some none := by
  rw [mountFolder, hconver]
  rfl

/-- What is done with a name that was converted. -/
theorem mountFolder_of_string {units : List UInt16} {u16Length : Nat} {pszName name : List UInt8}
    (hconver : converUTF16toUTF8 malloc units u16Length = some (some pszName)) (hzero : 0 ∈ pszName)
    (hname : pszName.takeWhile (· != 0) = name) :
    mountFolder malloc mallocCmd mount_root units u16Length ≠ none ↔
      mallocCmd (name.length + 80) = none ∨ name.length + mount_root.length ≤ 48 := by
  have hstrlen : strlen pszName = some name.length := by rw [strlen, if_pos hzero, hname]
  have htake : pszName.take name.length = name := by
    rw [← hname]
    exact (List.prefix_iff_eq_take.mp (List.takeWhile_prefix _)).symm
  unfold mountFolder
  rw [hconver, Option.bind_some]
  dsimp only
  rw [hstrlen, Option.bind_some]
  rw [htake]
  cases hmalloc : mallocCmd (name.length + 80) with
  | none => simp
  | some bytes =>
      have hblock : ((List.range (name.length + 80)).map bytes).length = name.length + 80 := by
        simp
      dsimp only
      rw [ne_eq, Option.map_eq_none_iff, ← ne_eq, formatCommands_ne_none_iff hblock]
      simp

/-- For a name that the host returns nothing is written behind a block exactly when the command
fits its own. -/
theorem mountsWithin_iff (hlength : 2 * name.length < 0x10000) :
    MountsWithin malloc mallocCmd mount_root (name ++ 0 :: more) (2 * name.length) ↔
      NameFits malloc mallocCmd mount_root name := by
  have hsize : uint32 (((2 * name.length : Nat) : Int) * 2 + 1) = 4 * name.length + 1 := by
    have heq := uint32_eq (x := ((2 * name.length : Nat) : Int) * 2 + 1) (by omega) (by omega)
    omega
  unfold MountsWithin NameFits
  by_cases hmalloc : malloc (4 * name.length + 1) = none
  · have hnull : converUTF16toUTF8 malloc (name ++ 0 :: more) (2 * name.length : Nat) =
        some none := by
      unfold converUTF16toUTF8
      dsimp only
      rw [hsize, hmalloc]
    rw [mountFolder_of_null hnull, hnull]
    exact iff_of_true ⟨Option.some_ne_none _, Option.some_ne_none _⟩ (Or.inl hmalloc)
  · obtain ⟨res, hres, hstring, hnull⟩ := (fits_name name more).converts (by omega) (by omega)
      (Or.inr (by simp)) (by rwa [hsize])
    rw [text_name] at hstring hnull
    have hdefined :
        converUTF16toUTF8 malloc (name ++ 0 :: more) (2 * name.length : Nat) ≠ none := by
      rw [hres]
      exact Option.some_ne_none _
    cases res with
    | none =>
        rw [mountFolder_of_null hres]
        exact iff_of_true ⟨hdefined, Option.some_ne_none _⟩ (Or.inr (Or.inl (hnull.mp rfl)))
    | some pszName =>
        obtain ⟨cs, htext, hzero, htake⟩ := hstring pszName rfl
        have hformed : ¬Malformed (name.takeWhile (· != 0)) := fun h => by cases hnull.mpr h
        rw [mountFolder_of_string hres hzero htake, length_utf8, and_iff_right hdefined]
        constructor
        · intro h
          exact Or.inr (Or.inr ⟨cs, htext, h⟩)
        · rintro (hnone | hbad | ⟨ds, hds, h⟩)
          · exact absurd hnone hmalloc
          · exact absurd hbad hformed
          · -- the name stands for one string only
            obtain rfl := encodeAll_injective (htext.symm.trans hds)
            exact h

/-- The folder `sd` under `/mnt`. -/
theorem mountsWithin_sd :
    MountsWithin (fun _ => some fun _ => 0x66) (fun _ => some fun _ => 0x66)
      (ofChars ['/', 'm', 'n', 't']) ([0x73, 0x64] ++ 0 :: [])
      (2 * ([0x73, 0x64] : List UInt16).length) := by
  refine (mountsWithin_iff (by decide)).mpr (Or.inr (Or.inr ⟨['s', 'd'], rfl, Or.inr ?_⟩))
  decide

/-- A name of 38 letters does not fit under the root `/mnt/shared`. -/
theorem not_mountsWithin : ¬∀ (malloc mallocCmd : Nat → Option (Nat → UInt8)) (mount_root : CString)
    (name more : List UInt16), 2 * name.length < 0x10000 →
      MountsWithin malloc mallocCmd mount_root (name ++ 0 :: more) (2 * name.length) := by
  intro h
  have hwithin := h (fun _ => some fun _ => 0x66) (fun _ => some fun _ => 0x66)
    (ofChars ['/', 'm', 'n', 't', '/', 's', 'h', 'a', 'r', 'e', 'd']) (List.replicate 38 0x61) []
    (by decide)
  have hconver : converUTF16toUTF8 (fun _ => some fun _ => 0x66) (List.replicate 38 0x61 ++ [0])
      (2 * (List.replicate 38 (0x61 : UInt16)).length : Nat) =
      some (some (List.replicate 38 0x61 ++ 0 :: List.replicate 114 0x66)) := by
    decide +kernel
  rcases (mountFolder_of_string hconver (by decide) rfl).mp hwithin.2 with hnone | hroom
  · cases hnone
  · exact absurd hroom (by decide)

end BdVbox
end DeviceAndroVM
