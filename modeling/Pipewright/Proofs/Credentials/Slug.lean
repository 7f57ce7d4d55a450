import Mathlib.Data.List.TakeWhile
import Mathlib.Tactic.SplitIfs
import Pipewright.Proofs.Credentials.Token

/-!
# Which repositories are read

A repository is read from an owner, one slash and a name, and from nothing else. Reading looks for
the first slash, then for a second one, and only then at what stands before and after it; all of
this comes to one split of the text (`parse_cases`). So reading is the inverse of writing, and every
other text is refused for the first reason in a fixed order (`Slug.parse_classifies`).
-/
namespace Pipewright

/-! ## Owners and names -/

/-- Whether a text is an owner: a letter or digit of ASCII, and then letters, digits and hyphens. -/
def IsOwner (owner : String) : Prop :=
  ∃ first rest, owner.toList = first :: rest ∧ first.isAlphanum = true ∧
    ∀ c ∈ rest, c.isAlphanum = true ∨ c = '-'

/-- Whether a text is the name of a repository: letters and digits of ASCII, points, underscores and
hyphens, and at least one of them. -/
def IsRepositoryName (name : String) : Prop :=
  name ≠ "" ∧ ∀ c ∈ name.toList, c.isAlphanum = true ∨ c = '.' ∨ c = '_' ∨ c = '-'

/-- The check of owners accepts owners. -/
theorem isOwner_iff (owner : String) : isOwner owner.toList = true ↔ IsOwner owner := by
  constructor
  · intro checked
    cases split : owner.toList with
    | nil =>
      rw [split] at checked
      cases checked
    | cons first rest =>
      rw [split] at checked
      exact ⟨first, rest, split, by simpa [isOwner, isWordChar_eq_isAlphanum] using checked⟩
  · rintro ⟨first, rest, split, starts, goesOn⟩
    simpa [split, isOwner, isWordChar_eq_isAlphanum, starts] using goesOn

/-- The check of names accepts names. -/
theorem isRepositoryName_iff (name : String) :
    isRepositoryName name.toList = true ↔ IsRepositoryName name := by
  unfold IsRepositoryName isRepositoryName
  rw [Bool.and_eq_true, Bool.not_eq_true', List.isEmpty_eq_false_iff, Ne, String.toList_eq_nil_iff]
  simp [isWordChar_eq_isAlphanum, or_assoc]

/-- Owners have no slash. -/
theorem IsOwner.no_slash {owner : String} (isOwner : IsOwner owner) : '/' ∉ owner.toList := by
  obtain ⟨first, rest, split, starts, goesOn⟩ := isOwner
  rw [split, List.mem_cons]
  rintro (same | among)
  · rw [← same] at starts
    exact absurd starts (by decide)
  · exact absurd (goesOn '/' among) (by decide)

/-- Names have no slash. -/
theorem IsRepositoryName.no_slash {name : String} (isName : IsRepositoryName name) :
    '/' ∉ name.toList := fun among => absurd (isName.2 '/' among) (by decide)

/-- A letter or digit of ASCII is no blank. -/
theorem isBlankChar_of_isAlphanum {c : Char} (letter : c.isAlphanum = true) :
    isBlankChar c = false := by
  rw [← isWordChar_eq_isAlphanum] at letter
  simp only [isWordChar, Bool.or_eq_true, Bool.and_eq_true, decide_eq_true_eq, Char.le_def,
    UInt32.le_iff_toNat_le, Char.toNat_val, Char.reduceToNat] at letter
  simp only [isBlankChar, Bool.or_eq_false_iff, Bool.and_eq_false_iff, decide_eq_false_iff_not,
    beq_eq_false_iff_ne]
  omega

/-- A character of a name is no blank. -/
theorem isBlankChar_of_isNameChar {c : Char}
    (named : c.isAlphanum = true ∨ c = '.' ∨ c = '_' ∨ c = '-') : isBlankChar c = false := by
  rcases named with letter | rfl | rfl | rfl
  · exact isBlankChar_of_isAlphanum letter
  · decide
  · decide
  · decide

/-- An owner is not blank, for it starts with a letter or digit. -/
theorem IsOwner.not_isBlank {owner : String} (isOwner : IsOwner owner) : isBlank owner = false := by
  obtain ⟨first, rest, split, starts, -⟩ := isOwner
  simp [isBlank, split, isBlankChar_of_isAlphanum starts]

/-- A name is not blank. -/
theorem IsRepositoryName.not_isBlank {name : String} (isName : IsRepositoryName name) :
    isBlank name = false := by
  obtain ⟨nonempty, all⟩ := isName
  obtain ⟨c, among⟩ := List.exists_mem_of_ne_nil _ (mt String.toList_eq_nil_iff.mp nonempty)
  exact List.all_eq_false.mpr ⟨c, among, by simp [isBlankChar_of_isNameChar (all c among)]⟩

namespace Slug

/-! ## One slash -/

/-- Whether a text is its two parts with a slash between them, and has no other slash. -/
structure AreParts (text owner name : String) : Prop where
  /-- The slash stands between the parts. -/
  joined : text = owner ++ "/" ++ name
  /-- None stands before it. -/
  owner_clear : '/' ∉ owner.toList
  /-- None stands after it. -/
  name_clear : '/' ∉ name.toList

section Parts

variable {text owner name : String}

/-- The characters of a text in two parts. -/
theorem AreParts.toList (parts : AreParts text owner name) :
    text.toList = owner.toList ++ '/' :: name.toList := by
  rw [parts.joined]
  simp

/-- A text in two parts has one slash. -/
theorem AreParts.count (parts : AreParts text owner name) : text.toList.count '/' = 1 := by
  rw [parts.toList, List.count_append, List.count_cons_self,
    List.count_eq_zero.mpr parts.owner_clear, List.count_eq_zero.mpr parts.name_clear]

/-- A text in two parts is not empty. -/
theorem AreParts.present (parts : AreParts text owner name) : text ≠ "" := by
  rintro rfl
  exact absurd parts.count (by decide)

/-- Reading splits a text at its first slash. -/
theorem parse_of_split {before after : List Char} (split : text.toList = before ++ '/' :: after)
    (clear : '/' ∉ before) :
    parse text = if '/' ∈ after then .error .repositoryFormat
      else ofParts (String.ofList before) (String.ofList after) := by
  have kept : ∀ c ∈ before, (c != '/') = true := fun c among =>
    bne_iff_ne.mpr fun same => clear (same ▸ among)
  have first : text.toList.takeWhile (· != '/') = before := by
    rw [split, List.takeWhile_append_of_pos kept]
    simp
  have rest : text.toList.dropWhile (· != '/') = '/' :: after := by
    rw [split, List.dropWhile_append_of_pos kept]
    simp
  have nonempty : text.toList.isEmpty = false := by simp [split]
  simp only [parse, nonempty, first, rest, Bool.false_eq_true, if_false]

/-- Reading a text in two parts checks these. -/
theorem AreParts.parse_eq (parts : AreParts text owner name) : parse text = ofParts owner name := by
  rw [parse_of_split parts.toList parts.owner_clear, if_neg parts.name_clear, String.ofList_toList,
    String.ofList_toList]

/-- A text is empty, or has another number of slashes than one, or is in two parts. -/
theorem parse_cases (text : String) :
    (text = "" ∧ parse text = .error .missingRepository) ∨
    (text ≠ "" ∧ text.toList.count '/' ≠ 1 ∧ parse text = .error .repositoryFormat) ∨
    ∃ owner name, AreParts text owner name := by
  by_cases empty : text = ""
  · subst empty
    exact .inl ⟨rfl, rfl⟩
  · refine .inr ?_
    by_cases slashed : '/' ∈ text.toList
    · obtain ⟨before, after, split, clear⟩ := List.eq_append_cons_of_mem slashed
      have read := parse_of_split split clear
      by_cases again : '/' ∈ after
      · refine .inl ⟨empty, ?_, read.trans (if_pos again)⟩
        have more : 0 < after.count '/' := List.count_pos_iff.mpr again
        rw [split, List.count_append, List.count_cons_self]
        omega
      · exact .inr ⟨.ofList before, .ofList after, by simp [← String.toList_inj, split],
          by simpa using clear, by simpa using again⟩
    · refine .inl ⟨empty, by simp [List.count_eq_zero.mpr slashed], ?_⟩
      have nothing : text.toList.dropWhile (· != '/') = [] := by
        rw [List.dropWhile_eq_nil_iff]
        exact fun c among => bne_iff_ne.mpr fun same => slashed (same ▸ among)
      simp [parse, nothing, empty]

/-- A text has parts or one of two faults; any other result is that of checking its parts. -/
theorem parse_eq_iff (result : Except CredentialFault Slug)
    (missing : result ≠ .error .missingRepository) (format : result ≠ .error .repositoryFormat) :
    parse text = result ↔ ∃ owner name, AreParts text owner name ∧ ofParts owner name = result := by
  constructor
  · intro read
    rcases parse_cases text with ⟨-, other⟩ | ⟨-, -, other⟩ | ⟨owner, name, parts⟩
    · exact absurd (read.symm.trans other) missing
    · exact absurd (read.symm.trans other) format
    · exact ⟨owner, name, parts, parts.parse_eq.symm.trans read⟩
  · rintro ⟨owner, name, parts, checked⟩
    exact parts.parse_eq.trans checked

end Parts

/-! ## Every result -/

/-- What checking parts makes of them: the first of four faults that they have, or else the
repository that is theirs. -/
structure Checks (owner name : String) (result : Except CredentialFault Slug) : Prop where
  /-- The owner is looked at first, and may be blank. -/
  emptyOwner : result = .error .emptyOwner ↔ isBlank owner = true
  /-- Otherwise it may be none. -/
  invalidOwner : result = .error .invalidOwner ↔ isBlank owner = false ∧ ¬IsOwner owner
  /-- The name of an owner's repository may be blank. -/
  emptyName : result = .error .emptyName ↔ IsOwner owner ∧ isBlank name = true
  /-- Otherwise it may be none. -/
  invalidName : result = .error .invalidName ↔
    IsOwner owner ∧ isBlank name = false ∧ ¬IsRepositoryName name
  /-- The repository has these parts. -/
  ok : ∀ slug, result = .ok slug ↔
    (owner = slug.owner ∧ name = slug.name) ∧ IsOwner owner ∧ IsRepositoryName name
  /-- Parts are not missing. -/
  present : result ≠ .error .missingRepository
  /-- They have been told apart. -/
  apart : result ≠ .error .repositoryFormat

/-- Parts are checked. -/
theorem ofParts_checks (owner name : String) : Checks owner name (ofParts owner name) := by
  have ownerSolid := @IsOwner.not_isBlank owner
  have nameSolid := @IsRepositoryName.not_isBlank name
  unfold ofParts
  -- In each case one result is left, and its condition excludes those of the others.
  split_ifs with noOwner isOwner noName isName
  · constructor <;> simp_all
  · rw [isOwner_iff] at isOwner
    constructor <;> simp_all
  · have made (slug : Slug) : (⟨owner, name, isOwner, isName⟩ : Slug) = slug ↔
        owner = slug.owner ∧ name = slug.name := by
      cases slug
      exact Slug.mk.injEq .. ▸ Iff.rfl
    have owned := (isOwner_iff owner).mp isOwner
    have named := (isRepositoryName_iff name).mp isName
    constructor <;> simp_all
  · rw [isOwner_iff] at isOwner
    rw [isRepositoryName_iff] at isName
    constructor <;> simp_all
  · rw [isOwner_iff] at isOwner
    constructor <;> simp_all

/-- A text is read as a repository exactly if it is the text of that. -/
theorem parse_eq_ok_iff {text : String} {slug : Slug} :
    parse text = .ok slug ↔ text = slug.text := by
  have isOwner := (isOwner_iff slug.owner).mp slug.owner_valid
  have isName := (isRepositoryName_iff slug.name).mp slug.name_valid
  refine (parse_eq_iff (.ok slug) nofun nofun).trans ⟨?_, fun written => ?_⟩
  · rintro ⟨owner, name, parts, made⟩
    obtain ⟨⟨rfl, rfl⟩, -⟩ := ((ofParts_checks owner name).ok slug).mp made
    exact parts.joined
  · exact ⟨slug.owner, slug.name, ⟨written, isOwner.no_slash, isName.no_slash⟩,
      ((ofParts_checks _ _).ok slug).mpr ⟨⟨rfl, rfl⟩, isOwner, isName⟩⟩

/-- A text is missing exactly if it is empty. -/
theorem parse_eq_missing_iff (text : String) :
    parse text = .error .missingRepository ↔ text = "" := by
  rcases parse_cases text with ⟨empty, read⟩ | ⟨present, -, read⟩ | ⟨owner, name, parts⟩
  · exact iff_of_true read empty
  · exact iff_of_false (by simp [read]) present
  · exact iff_of_false (parts.parse_eq ▸ (ofParts_checks owner name).present) parts.present

/-- A text has no parts exactly if it is there and has not exactly one slash. -/
theorem parse_eq_format_iff (text : String) :
    parse text = .error .repositoryFormat ↔ text ≠ "" ∧ text.toList.count '/' ≠ 1 := by
  rcases parse_cases text with ⟨empty, read⟩ | ⟨present, count, read⟩ | ⟨owner, name, parts⟩
  · exact iff_of_false (by simp [read]) fun refused => refused.1 empty
  · exact iff_of_true read ⟨present, count⟩
  · exact iff_of_false (parts.parse_eq ▸ (ofParts_checks owner name).apart) fun refused =>
      refused.2 parts.count

/-- Every text has one result. It is read as a repository exactly if it is an owner, a slash and a
name, which are then those of the repository, and every repository is read back from its text.
Otherwise it is refused: it is empty, or has not exactly one slash, or the part before the slash is
blank or else no owner, or the part after it is blank or else no name. -/
theorem parse_classifies (text : String) :
    (∀ owner name, (∃ slug, parse text = .ok slug ∧ slug.owner = owner ∧ slug.name = name) ↔
      text = owner ++ "/" ++ name ∧ IsOwner owner ∧ IsRepositoryName name) ∧
    (∀ slug, parse text = .ok slug ↔ text = slug.text) ∧
    (parse text = .error .missingRepository ↔ text = "") ∧
    (parse text = .error .repositoryFormat ↔ text ≠ "" ∧ text.toList.count '/' ≠ 1) ∧
    (parse text = .error .emptyOwner ↔
      ∃ owner name, AreParts text owner name ∧ isBlank owner = true) ∧
    (parse text = .error .invalidOwner ↔
      ∃ owner name, AreParts text owner name ∧ isBlank owner = false ∧ ¬IsOwner owner) ∧
    (parse text = .error .emptyName ↔
      ∃ owner name, AreParts text owner name ∧ IsOwner owner ∧ isBlank name = true) ∧
    (parse text = .error .invalidName ↔
      ∃ owner name, AreParts text owner name ∧ IsOwner owner ∧ isBlank name = false ∧
        ¬IsRepositoryName name) := by
  have refused {fault : CredentialFault} {Faulty : String → String → Prop}
      (missing : fault ≠ .missingRepository) (format : fault ≠ .repositoryFormat)
      (faulty : ∀ owner name, ofParts owner name = .error fault ↔ Faulty owner name) :
      parse text = .error fault ↔ ∃ owner name, AreParts text owner name ∧ Faulty owner name :=
    (parse_eq_iff _ (mt Except.error.inj missing) (mt Except.error.inj format)).trans
      (exists₂_congr fun owner name => and_congr_right fun _ => faulty owner name)
  refine ⟨fun owner name => ?_, fun slug => parse_eq_ok_iff, parse_eq_missing_iff text,
    parse_eq_format_iff text,
    refused nofun nofun fun owner name => (ofParts_checks owner name).emptyOwner,
    refused nofun nofun fun owner name => (ofParts_checks owner name).invalidOwner,
    refused nofun nofun fun owner name => (ofParts_checks owner name).emptyName,
    refused nofun nofun fun owner name => (ofParts_checks owner name).invalidName⟩
  simp only [parse_eq_ok_iff]
  constructor
  · rintro ⟨slug, rfl, rfl, rfl⟩
    exact ⟨rfl, (isOwner_iff _).mp slug.owner_valid, (isRepositoryName_iff _).mp slug.name_valid⟩
  · rintro ⟨rfl, isOwner, isName⟩
    exact ⟨⟨owner, name, (isOwner_iff _).mpr isOwner, (isRepositoryName_iff _).mpr isName⟩,
      rfl, rfl, rfl⟩

end Slug

end Pipewright
