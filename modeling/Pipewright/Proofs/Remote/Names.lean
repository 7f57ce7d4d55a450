import Pipewright.Proofs.Http.Path
import Pipewright.Remote.Client

/-!
# Names in the paths of calls

The path of a call holds a hash, the number of a run or the name of a branch. Hashes and numbers are
letters and digits, which stand for themselves in any path. A branch may be named otherwise, by the
rules for the names of references (`isBranchName`), and then it is read for itself only if it holds
nothing that means something else in an address.
-/
namespace Pipewright

open Http

/-! ## Names of branches -/

/-- Whether two characters follow one another somewhere. -/
def hasPair (a b : Char) : List Char → Bool
  | c :: d :: rest => (c == a && d == b) || hasPair a b (d :: rest)
  | _ => false

/-- Whether a character may stand in the name of a reference. -/
def isBranchChar (c : Char) : Bool :=
  0x20 < c.toNat && c.toNat != 0x7F
    && !(['~', '^', ':', '?', '*', '[', '\\'].contains c)

/-- Whether a text may stand between the slashes of the name of a reference. -/
def isBranchPart (part : List Char) : Bool :=
  !part.isEmpty && part.head? != some '.' && !(['.', 'l', 'o', 'c', 'k'].isSuffixOf part)

/-- Whether a text follows the rules for the names of references, as every name does that a branch
can be given. -/
def isBranchName (name : List Char) : Bool :=
  (splitAtChar '/' name).all isBranchPart && name.all isBranchChar && !hasPair '.' '.' name
    && !hasPair '@' '\x7b' name && name.getLast? != some '.'

/-- Where there are no backslashes, segments of the web are what stands between slashes. -/
theorem splitSegments_eq_splitAtChar {text : List Char} (unbent : '\\' ∉ text) :
    Url.splitSegments .web text = splitAtChar '/' text := by
  induction text with
  | nil => rfl
  | cons c text ih =>
    obtain ⟨other, later⟩ := not_or.mp (mt List.mem_cons.mpr unbent)
    have slash : Url.isSlash .web c = (c == '/') := by
      simp [Url.isSlash, Ne.symm other]
    rw [Url.splitSegments, splitAtChar, slash, ih later]
    cases same : c == '/' with
    | true => simp [beq_iff_eq.mp same]
    | false =>
      have different := beq_eq_false_iff_ne.mp same
      cases splitAtChar '/' text with
      | nil => simp [different]
      | cons segment segments => simp [different]

section Branch

variable {name : List Char} (legal : isBranchName name = true)

include legal

/-- The characters of a branch's name are visible, and none is a question mark or a backslash. -/
theorem plain_of_isBranchName {c : Char} (member : c ∈ name) :
    0x20 < c.toNat ∧ c ≠ '?' ∧ c ≠ '\\' := by
  simp only [isBranchName, Bool.and_eq_true] at legal
  have allowed := List.all_eq_true.mp legal.1.1.1.2 c member
  simp only [isBranchChar, Bool.and_eq_true, decide_eq_true_eq] at allowed
  refine ⟨allowed.1.1, ?_, ?_⟩
  · rintro rfl
    exact absurd allowed.2 (by decide)
  · rintro rfl
    exact absurd allowed.2 (by decide)

/-- The parts of a branch's name do not start with a point. -/
theorem head?_ne_of_isBranchName {part : List Char} (member : part ∈ Url.splitSegments .web name) :
    part.head? ≠ some '.' := by
  have unbent : '\\' ∉ name := fun bent => (plain_of_isBranchName legal bent).2.2 rfl
  rw [splitSegments_eq_splitAtChar unbent] at member
  simp only [isBranchName, Bool.and_eq_true] at legal
  have allowed := List.all_eq_true.mp legal.1.1.1.1 part member
  simp only [isBranchPart, Bool.and_eq_true, bne_iff_ne] at allowed
  exact allowed.1.2

end Branch

/-! ## Plain characters -/

/-- Whether a character stands for itself in the path of an address and ends no part of one but
perhaps a segment. -/
structure IsPlain (d : Char) : Prop where
  /-- It is visible. -/
  visible : 0x20 < d.toNat
  /-- It stays as it is in a path. -/
  unencoded : isEncodedInPath d = false
  /-- It starts no query. -/
  noQuery : d ≠ '?'
  /-- It starts no fragment. -/
  noFragment : d ≠ '#'
  /-- It does not pass for a slash. -/
  noBackslash : d ≠ '\\'
  /-- It starts no escape. -/
  noPercent : d ≠ '%'

/-- Whether a character may stand in an owner, the name of a repository, a hash or a number, or
separate them. -/
def isPlaceChar (c : Char) : Bool := isWordChar c || c == '/' || c == '.' || c == '_' || c == '-'

/-- Such characters are of ASCII. -/
theorem toNat_lt_of_isPlaceChar {d : Char} (place : isPlaceChar d = true) : d.toNat < 128 := by
  simp only [isPlaceChar, isWordChar, Bool.or_eq_true, Bool.and_eq_true, decide_eq_true_eq,
    beq_iff_eq] at place
  have below {last : Char} (small : last.toNat < 128) (upTo : d ≤ last) : d.toNat < 128 :=
    Nat.lt_of_le_of_lt upTo small
  rcases place with ((((((⟨-, lower⟩ | ⟨-, upper⟩) | ⟨-, digit⟩) | rfl) | rfl) | rfl) | rfl)
  · exact below (by decide) lower
  · exact below (by decide) upper
  · exact below (by decide) digit
  · decide
  · decide
  · decide
  · decide

/-- Such characters are plain. -/
theorem isPlain_of_isPlaceChar {d : Char} (place : isPlaceChar d = true) : IsPlain d := by
  obtain ⟨visible, unencoded, noQuery, noFragment, noBackslash, noPercent⟩ :=
    Yaml.forall_ascii (p := fun d => isPlaceChar d = true → 0x20 < d.toNat ∧
      isEncodedInPath d = false ∧ d ≠ '?' ∧ d ≠ '#' ∧ d ≠ '\\' ∧ d ≠ '%') (by decide)
      (toNat_lt_of_isPlaceChar place) place
  exact ⟨visible, unencoded, noQuery, noFragment, noBackslash, noPercent⟩

/-! ## Calls -/

/-- What each character of a text is found to be, all of them are. -/
theorem forall_mem_of_all {p : Char → Prop} [DecidablePred p] {text : List Char}
    (all : (text.all fun d => p d) = true) : ∀ d ∈ text, p d :=
  fun d member => of_decide_eq_true (List.all_eq_true.mp all d member)

namespace Call

/-- The branch that a call names in its path. -/
def pathBranch : Call → Option String
  | branch name => some name
  | updateRef name _ => some name
  | _ => none

/-- Whether the names in the path of a call are what they are for: hashes are of hexadecimal digits,
and branches follow the rules for their names. -/
def HasProperNames : Call → Prop
  | branch name => isBranchName name.toList = true
  | updateRef name _ => isBranchName name.toList = true
  | tree sha => ∀ c ∈ sha.toList, (hexValue c).isSome
  | _ => True

/-- Whether a character is a letter, a digit or a slash. -/
def isPathChar (c : Char) : Bool := isWordChar c || c == '/'

/-- Hexadecimal digits are letters or digits. -/
theorem isPathChar_of_hexValue {c : Char} (digit : (hexValue c).isSome) : isPathChar c = true := by
  obtain ⟨n, value⟩ := Option.isSome_iff_exists.mp digit
  exact Yaml.forall_ascii (p := fun c => (hexValue c).isSome → isPathChar c = true)
    (by decide) (Yaml.toNat_lt_of_hexValue value) digit

/-- The characters of a number are digits. -/
theorem isPathChar_of_number (n : Nat) : ∀ c ∈ (toString n).toList, isPathChar c = true := by
  intro c member
  have digit := isDigit_of_mem_toString member
  simp only [Char.isDigit, Bool.and_eq_true, decide_eq_true_eq] at digit
  have isDigit : ('0' ≤ c && c ≤ '9') = true := by
    simp only [Bool.and_eq_true, decide_eq_true_eq]
    exact digit
  simp [isPathChar, isWordChar, isDigit]

/-- What holds of the characters of two texts holds of those of both together. -/
theorem forall_mem_append {p : Char → Prop} {text rest : String} (first : ∀ c ∈ text.toList, p c)
    (later : ∀ c ∈ rest.toList, p c) : ∀ c ∈ (text ++ rest).toList, p c := by
  intro c member
  rw [String.toList_append] at member
  exact (List.mem_append.mp member).elim (first c) (later c)

/-- Without a branch the path of a call is of letters, digits and slashes. -/
theorem isPathChar_path {c : Call} (proper : c.HasProperNames) (branchless : c.pathBranch = none) :
    ∀ d ∈ c.path.toList, isPathChar d = true := by
  have fixed {text : String} (all : text.toList.all isPathChar = true) :
      ∀ d ∈ text.toList, isPathChar d = true := List.all_eq_true.mp all
  have around {front back : String} (first : front.toList.all isPathChar = true)
      (last : back.toList.all isPathChar = true) (n : Nat) :
      ∀ d ∈ (front ++ toString n ++ back).toList, isPathChar d = true :=
    forall_mem_append (forall_mem_append (fixed first) (isPathChar_of_number n)) (fixed last)
  cases c with
  | branch name => cases branchless
  | updateRef name sha => cases branchless
  | tree sha =>
    have digits : ∀ d ∈ sha.toList, isPathChar d = true := fun d member =>
      isPathChar_of_hexValue (proper d member)
    exact forall_mem_append (fixed (by decide)) digits
  | dispatch workflow name => exact around (by decide) (by decide) _
  | runs workflow name => exact around (by decide) (by decide) _
  | jobs run => exact around (by decide) (by decide) _
  | jobLog job => exact around (by decide) (by decide) _
  | repository => exact fun d member => absurd member List.not_mem_nil
  | createBlob content => exact @fixed "/git/blobs" (by decide)
  | createTree base path blob => exact @fixed "/git/trees" (by decide)
  | createCommit message root parent => exact @fixed "/git/commits" (by decide)
  | workflows => exact @fixed "/actions/workflows" (by decide)

/-- Letters, digits and slashes are plain. -/
theorem isPlain_of_isPathChar {d : Char} (path : isPathChar d = true) : IsPlain d := by
  refine isPlain_of_isPlaceChar ?_
  rw [isPlaceChar, ← isPathChar, path]
  rfl

/-- Letters, digits and slashes make no dots. -/
theorem no_dot_of_isPathChar {d : Char} (path : isPathChar d = true) : d ≠ '.' ∧ d ≠ '%' := by
  refine ⟨?_, (isPlain_of_isPathChar path).noPercent⟩
  rintro rfl
  exact absurd path (by decide)

/-- What stands between slashes before the branch in the path of a call. -/
def branchFront : Call → String
  | branch _ => "branches"
  | _ => "git/refs/heads"

/-- A branch stands in a path after a front and a slash. -/
theorem path_of_pathBranch {c : Call} {name : String} (named : c.pathBranch = some name) :
    c.path = "/" ++ c.branchFront ++ "/" ++ name := by
  cases c with
  | branch name => cases named; rfl
  | updateRef name sha => cases named; rfl
  | _ => cases named

/-- The branch in the path of a call is named by the rules. -/
theorem isBranchName_of_pathBranch {c : Call} {name : String} (proper : c.HasProperNames)
    (named : c.pathBranch = some name) : isBranchName name.toList = true := by
  cases c with
  | branch name => cases named; exact proper
  | updateRef name sha => cases named; exact proper
  | _ => cases named

/-- What stands before a branch is of letters and slashes. -/
theorem isPathChar_branchFront (c : Call) : ∀ d ∈ c.branchFront.toList, isPathChar d = true := by
  cases c with
  | branch name => exact List.all_eq_true.mp (by decide : "branches".toList.all isPathChar = true)
  | _ => exact List.all_eq_true.mp (by decide : "git/refs/heads".toList.all isPathChar = true)

/-- What holds of the characters of a front, of a slash and of a branch holds of a path of them. -/
theorem forall_mem_path {p : Char → Prop} {c : Call} {name : String}
    (named : c.pathBranch = some name) (plain : ∀ d, isPathChar d = true → p d)
    (branch : ∀ d ∈ name.toList, p d) : ∀ d ∈ c.path.toList, p d := by
  have isSlash : "/".toList.all isPathChar = true := by decide
  have slash : ∀ d ∈ "/".toList, p d := fun d member =>
    plain d (List.all_eq_true.mp isSlash d member)
  rw [path_of_pathBranch named]
  exact forall_mem_append (forall_mem_append (forall_mem_append slash fun d member =>
    plain d (isPathChar_branchFront c d member)) slash) branch

/-- The characters of a path are visible, and none is a question mark or a backslash. -/
theorem plain_path {c : Call} (proper : c.HasProperNames) :
    ∀ d ∈ c.path.toList, 0x20 < d.toNat ∧ d ≠ '?' ∧ d ≠ '\\' := by
  have clear {d : Char} (path : isPathChar d = true) : 0x20 < d.toNat ∧ d ≠ '?' ∧ d ≠ '\\' :=
    have plain := isPlain_of_isPathChar path
    ⟨plain.visible, plain.noQuery, plain.noBackslash⟩
  cases named : c.pathBranch with
  | none => exact fun d member => clear (isPathChar_path proper named d member)
  | some name =>
    exact forall_mem_path named (fun d => clear) fun d =>
      plain_of_isBranchName (isBranchName_of_pathBranch proper named)

/-- The only number signs in the path of a call are those of a branch's name. -/
theorem unmarked_path {c : Call} (proper : c.HasProperNames)
    (unmarked : ∀ name ∈ c.pathBranch, '#' ∉ name.toList) : ∀ d ∈ c.path.toList, d ≠ '#' := by
  have clear {d : Char} (path : isPathChar d = true) : d ≠ '#' :=
    (isPlain_of_isPathChar path).noFragment
  cases named : c.pathBranch with
  | none => exact fun d member => clear (isPathChar_path proper named d member)
  | some name =>
    exact forall_mem_path named (fun d => clear) fun d member same =>
      unmarked name named (same ▸ member)

/-- The only dots that may be followed in the path of a call are parts of a branch's name. -/
theorem isUndotted_path_iff {c : Call} (proper : c.HasProperNames) :
    Url.IsUndotted c.path.toList ↔ ∀ name ∈ c.pathBranch, Url.IsUndotted name.toList := by
  cases named : c.pathBranch with
  | none =>
    refine iff_of_true (Url.isUndotted_of_forall fun d member => ?_) (by simp)
    exact no_dot_of_isPathChar (isPathChar_path proper named d member)
  | some name =>
    have front : Url.IsUndotted c.branchFront.toList :=
      Url.isUndotted_of_forall fun d member =>
        no_dot_of_isPathChar (isPathChar_branchFront c d member)
    have nothing : Url.IsUndotted [] :=
      Url.isUndotted_of_forall fun d member => absurd member List.not_mem_nil
    have chars : ("/" ++ c.branchFront ++ "/" ++ name).toList =
        [] ++ '/' :: (c.branchFront.toList ++ '/' :: name.toList) := by simp
    rw [path_of_pathBranch named, chars, Url.isUndotted_append_iff, Url.isUndotted_append_iff]
    simp [front, nothing]

end Call

end Pipewright
