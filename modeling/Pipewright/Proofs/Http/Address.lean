import Mathlib.Data.List.TakeWhile
import Pipewright.Http.Url.Read
import Pipewright.Proofs.Http.Path

/-!
# Addresses below an address

What stands before a slash in the text of an address is read without regard to what follows it: the
scheme, the user, the host and the port are found before the first slash of the path, and the
segments up to a slash are followed before those after it. So an address that goes on after a slash
is the one at that slash, with a path that goes on from there (`exists_parse_below`).
-/
namespace Pipewright.Http.Url

/-! ## Runs -/

section Runs

variable {p : Char → Bool} {stop : Char}

/-- What is taken from the front is taken before a character that stops it. -/
theorem takeWhile_append_stop (stops : p stop = false) (text rest : List Char) :
    (text ++ stop :: rest).takeWhile p = text.takeWhile p := by
  induction text with
  | nil => simp [stops]
  | cons c text ih =>
    rw [List.cons_append, List.takeWhile_cons, List.takeWhile_cons, ih]

/-- What is dropped from the front is dropped before a character that stops it. -/
theorem dropWhile_append_stop (stops : p stop = false) (text rest : List Char) :
    (text ++ stop :: rest).dropWhile p = text.dropWhile p ++ stop :: rest := by
  induction text with
  | nil => simp [stops]
  | cons c text ih =>
    rw [List.cons_append, List.dropWhile_cons, List.dropWhile_cons, ih]
    split <;> rfl

end Runs

/-- A slash ends the part of an address that names a user, a host and a port. -/
theorem endsAuthority_slash (kind : Kind) : endsAuthority kind '/' = true := by
  simp [endsAuthority, isSlash]

/-- A slash separates segments. -/
theorem isSlash_slash (kind : Kind) : isSlash kind '/' = true := by
  simp [isSlash]

/-! ## Before a slash -/

/-- What follows the last occurrence of a character is part of the text. -/
theorem subset_of_splitAtLast {separator : Char} {text before after : List Char}
    (split : splitAtLast separator text = some (before, after)) : after ⊆ text := by
  unfold splitAtLast at split
  split at split
  · cases split
  · obtain ⟨-, rfl⟩ := Prod.mk.inj (Option.some.inj split)
    intro c member
    have within := List.takeWhile_subset _ (List.mem_reverse.mp member)
    exact List.mem_reverse.mp within

/-- The user before a slash. -/
theorem exists_readUser_slash (kind : Kind) (text : List Char) :
    ∃ front : Option (String × String × List Char),
      (∀ found ∈ front, found.2.2 ⊆ text) ∧
        ∀ rest, readUser kind (text ++ '/' :: rest) =
          front.map fun found => (found.1, found.2.1, found.2.2 ++ '/' :: rest) := by
  have here (rest : List Char) :
      (text ++ '/' :: rest).takeWhile (fun c => !endsAuthority kind c) =
        text.takeWhile fun c => !endsAuthority kind c :=
    takeWhile_append_stop (by simp [endsAuthority_slash]) text rest
  have beyond (rest : List Char) :
      (text ++ '/' :: rest).dropWhile (fun c => !endsAuthority kind c) =
        text.dropWhile (fun c => !endsAuthority kind c) ++ '/' :: rest :=
    dropWhile_append_stop (by simp [endsAuthority_slash]) text rest
  unfold readUser
  simp only [here, beyond]
  cases split : splitAtLast '@' (text.takeWhile fun c => !endsAuthority kind c) with
  | none => exact ⟨some ("", "", text), by simp, fun rest => rfl⟩
  | some found =>
    obtain ⟨user, after⟩ := found
    have within : after ++ text.dropWhile (fun c => !endsAuthority kind c) ⊆ text :=
      List.append_subset.mpr
        ⟨fun c member => List.takeWhile_subset _ (subset_of_splitAtLast split member),
          List.dropWhile_subset _⟩
    let encode (part : List Char) : String := String.ofList (percentEncode isEncodedInUser part)
    cases nobody : user.isEmpty && after.isEmpty with
    | true => exact ⟨none, by simp, fun rest => by simp [nobody]⟩
    | false =>
      refine ⟨some (encode (user.takeWhile (· != ':')),
        encode ((user.dropWhile (· != ':')).drop 1),
        after ++ text.dropWhile fun c => !endsAuthority kind c), ?_, fun rest => ?_⟩
      · rintro found ⟨⟩
        exact within
      · simp [nobody, encode]

/-- The host before a slash. -/
theorem splitHost_slash (kind : Kind) (inBrackets : Bool) (text rest : List Char) :
    splitHost kind inBrackets (text ++ '/' :: rest) =
      ((splitHost kind inBrackets text).1, (splitHost kind inBrackets text).2 ++ '/' :: rest) := by
  induction text generalizing inBrackets with
  | nil => simp [splitHost, endsAuthority_slash]
  | cons c text ih =>
    rw [List.cons_append, splitHost, splitHost, ih]
    split <;> rfl

/-- What follows a host is part of the text. -/
theorem subset_splitHost (kind : Kind) (inBrackets : Bool) (text : List Char) :
    (splitHost kind inBrackets text).2 ⊆ text := by
  induction text generalizing inBrackets with
  | nil => simp [splitHost]
  | cons c text ih =>
    rw [splitHost]
    split
    · exact List.Subset.refl _
    · exact List.subset_cons_of_subset c (ih _)

/-- The port before a slash. -/
theorem readPort_slash (scheme : String) (text rest : List Char) :
    readPort scheme (text ++ '/' :: rest) =
      (readPort scheme text).map fun found => (found.1, found.2 ++ '/' :: rest) := by
  have stops : Char.isDigit '/' = false := by decide
  unfold readPort
  simp only [takeWhile_append_stop stops, dropWhile_append_stop stops]
  have same : (text.dropWhile Char.isDigit ++ '/' :: rest).head?.all (endsAuthority .web) =
      (text.dropWhile Char.isDigit).head?.all (endsAuthority .web) := by
    cases text.dropWhile Char.isDigit with
    | nil => rfl
    | cons c later => rfl
  rw [same]
  split <;> rfl

/-- What follows a port is part of the text. -/
theorem subset_of_readPort {scheme : String} {text after : List Char} {port : Option Nat}
    (read : readPort scheme text = some (port, after)) : after ⊆ text := by
  simp only [readPort] at read
  split at read
  · obtain ⟨-, rfl⟩ := Prod.mk.inj (Option.some.inj read)
    exact List.dropWhile_subset _
  · cases read

/-- A host with the port that follows it, and what follows that. -/
def portAfter (scheme : String) (host : List Char) :
    List Char → Option (String × Option Nat × List Char)
  | ':' :: rest =>
    if host.isEmpty then none
    else (readPort scheme rest).map fun found => (String.ofList host, found.1, found.2)
  | rest => some (String.ofList host, none, rest)

/-- A host is read up to where its text ends, and then its port. -/
theorem readHost_eq (scheme : String) (text : List Char) :
    readHost scheme text =
      (if kindOf scheme = .other then Host.parseOther (splitHost (kindOf scheme) false text).1
        else Host.parse (splitHost (kindOf scheme) false text).1).bind fun host =>
          portAfter scheme host (splitHost (kindOf scheme) false text).2 := by
  unfold readHost
  simp only [Option.bind_eq_bind]
  generalize splitHost (kindOf scheme) false text = found
  have ports (host : List Char) :
      (match found.2 with
        | ':' :: rest =>
          if host.isEmpty = true then none
          else (readPort scheme rest).bind fun port => some (String.ofList host, port.1, port.2)
        | rest => some (String.ofList host, none, rest)) = portAfter scheme host found.2 := by
    unfold portAfter
    split
    · refine if_congr Iff.rfl rfl ?_
      rw [Option.map_eq_bind]
      rfl
    · rfl
  split
  · exact congrArg (Option.bind _) (funext ports)
  · exact congrArg (Option.bind _) (funext ports)

/-- The port before a slash. -/
theorem portAfter_slash (scheme : String) (host text rest : List Char) :
    portAfter scheme host (text ++ '/' :: rest) =
      (portAfter scheme host text).map fun found =>
        (found.1, found.2.1, found.2.2 ++ '/' :: rest) := by
  cases text with
  | nil => rfl
  | cons c text =>
    by_cases colon : c = ':'
    · subst colon
      rw [List.cons_append, portAfter, portAfter, readPort_slash]
      cases host.isEmpty with
      | true => rfl
      | false => simp [Function.comp_def]
    · rw [List.cons_append, portAfter, portAfter]
      · rfl
      · exact fun later same => colon (List.cons.inj same).1
      · exact fun later same => colon (List.cons.inj same).1

/-- What follows a port, or a host without one, is part of the text. -/
theorem subset_of_portAfter {scheme : String} {host text : List Char}
    {found : String × Option Nat × List Char} (read : portAfter scheme host text = some found) :
    found.2.2 ⊆ text := by
  unfold portAfter at read
  split at read
  · next rest =>
    cases isEmpty : host.isEmpty with
    | true => simp [isEmpty] at read
    | false =>
      simp only [isEmpty, Bool.false_eq_true, if_false, Option.map_eq_some_iff] at read
      obtain ⟨⟨port, after⟩, ports, rfl⟩ := read
      exact List.subset_cons_of_subset _ (subset_of_readPort ports)
  · cases read
    exact List.Subset.refl _

/-- The host and the port before a slash. -/
theorem readHost_slash (scheme : String) (text rest : List Char) :
    readHost scheme (text ++ '/' :: rest) =
      (readHost scheme text).map fun found => (found.1, found.2.1, found.2.2 ++ '/' :: rest) := by
  rw [readHost_eq, readHost_eq, splitHost_slash]
  simp only [portAfter_slash, Option.map_bind]
  rfl

/-- What follows a host and a port is part of the text. -/
theorem subset_of_readHost {scheme : String} {text : List Char}
    {found : String × Option Nat × List Char} (read : readHost scheme text = some found) :
    found.2.2 ⊆ text := by
  rw [readHost_eq, Option.bind_eq_some_iff] at read
  obtain ⟨host, -, read⟩ := read
  exact List.Subset.trans (subset_of_portAfter read) (subset_splitHost (kindOf scheme) false text)

/-! ## After a slash -/

/-- Where there is no question mark there is no query, and a fragment is no part of the path. -/
theorem splitTail_of_not_mem {text : List Char} (unasked : '?' ∉ text) :
    ∃ fragment, splitTail text = (text.takeWhile (· != '#'), none, fragment) := by
  have unqueried {part : List Char} (within : part ⊆ text) :
      part.dropWhile (· != '?') = [] :=
    List.dropWhile_eq_nil_iff.mpr fun c member =>
      bne_iff_ne.mpr fun same => unasked (same ▸ within member)
  unfold splitTail
  cases marked : text.dropWhile (· != '#') with
  | nil =>
    have whole : text.takeWhile (· != '#') = text := by
      have both := List.takeWhile_append_dropWhile (p := (· != '#')) (l := text)
      rwa [marked, List.append_nil] at both
    simp only [unqueried (List.Subset.refl text), whole]
    exact ⟨none, rfl⟩
  | cons sign fragment =>
    simp only [unqueried (List.takeWhile_subset _)]
    exact ⟨some fragment, rfl⟩

/-- The path after a slash goes on from the segments before it. -/
theorem exists_writePath_slash (before : List Char) :
    ∃ kept, ∀ text, writePath .web (before ++ '/' :: text) = extendPath .web kept text := by
  have below (lead : List Char) (text : List Char) : extendPath .web [] (lead ++ '/' :: text) =
      extendPath .web ((splitSegments .web lead).foldl (keepSegment .web) []) text := by
    unfold extendPath
    rw [splitSegments_append, followDots_append _ _ _ (splitSegments_ne_nil _ _)]
  cases before with
  | nil => exact ⟨[], fun text => rfl⟩
  | cons c before =>
    by_cases slash : isSlash .web c = true
    · refine ⟨(splitSegments .web before).foldl (keepSegment .web) [], fun text => ?_⟩
      rw [List.cons_append, writePath, if_pos slash]
      exact below before text
    · refine ⟨(splitSegments .web (c :: before)).foldl (keepSegment .web) [], fun text => ?_⟩
      rw [List.cons_append, writePath, if_neg slash, ← List.cons_append]
      exact below (c :: before) text

/-- The path at a slash ends with it. -/
theorem toList_extendPath_nil (kept : List (List Char)) :
    (extendPath .web kept []).toList = joined kept ++ ['/'] := by
  have undotted : ∀ segment ∈ splitSegments .web [], isDotted segment = false := by decide
  exact (extendPath_eq_iff kept List.not_mem_nil).mpr undotted

/-! ## Addresses -/

/-- The path of an address without the slash at its end. -/
def directory (url : Url) : String := String.ofList url.path.toList.dropLast

/-- What follows the two slashes, up to another slash. -/
theorem exists_readBeyondSlashes_slash (scheme : String) (text : List Char) :
    ∃ front : Option (Url × List Char),
      (∀ found ∈ front, found.1.scheme = scheme ∧ found.2 ⊆ text) ∧
        ∀ rest, readBeyondSlashes scheme (text ++ '/' :: rest) =
          front.map fun found =>
            found.1.withTail (writePath (kindOf scheme)) (found.2 ++ '/' :: rest) := by
  obtain ⟨front, inText, users⟩ := exists_readUser_slash (kindOf scheme) text
  cases front with
  | none =>
    refine ⟨none, by simp, fun rest => ?_⟩
    simp [readBeyondSlashes, users]
  | some user =>
    obtain ⟨username, password, afterUser⟩ := user
    cases hosts : readHost scheme afterUser with
    | none =>
      refine ⟨none, by simp, fun rest => ?_⟩
      simp [readBeyondSlashes, users, readHost_slash, hosts]
    | some found =>
      obtain ⟨host, port, afterHost⟩ := found
      by_cases housed : host = "" → username = "" ∧ password = ""
      · have within : afterHost ⊆ text :=
          List.Subset.trans (subset_of_readHost hosts) (inText _ rfl)
        refine ⟨some (⟨scheme, username, password, some host, port, "", none, none⟩, afterHost),
          ?_, fun rest => ?_⟩
        · rintro found ⟨⟩
          exact ⟨rfl, within⟩
        · simpa [readBeyondSlashes, users, readHost_slash, hosts] using housed
      · refine ⟨none, by simp, fun rest => ?_⟩
        simpa [readBeyondSlashes, users, readHost_slash, hosts] using housed

/-- What follows a scheme before a slash. -/
theorem splitScheme_slash (text rest : List Char) :
    splitScheme (text ++ '/' :: rest) =
      (splitScheme text).map fun found => (found.1, found.2 ++ '/' :: rest) := by
  cases text with
  | nil => rfl
  | cons first text =>
    have stops : ('/'.isAlphanum || '/' == '+' || '/' == '-' || '/' == '.') = false := by decide
    have scheme := takeWhile_append_stop (p := fun c => c.isAlphanum || c == '+' || c == '-'
      || c == '.') stops (first :: text) rest
    have beyond := dropWhile_append_stop (p := fun c => c.isAlphanum || c == '+' || c == '-'
      || c == '.') stops (first :: text) rest
    rw [List.cons_append] at scheme beyond
    rw [List.cons_append, splitScheme, splitScheme]
    simp only [scheme, beyond]
    split
    · cases later : (first :: text).dropWhile fun c =>
          c.isAlphanum || c == '+' || c == '-' || c == '.' with
      | nil => rfl
      | cons c later =>
        by_cases colon : c = ':'
        · subst colon
          rfl
        · simp [colon]
    · rfl

/-- What follows a scheme is part of the text. -/
theorem subset_of_splitScheme {text after : List Char} {scheme : String}
    (split : splitScheme text = some (scheme, after)) : after ⊆ text := by
  cases text with
  | nil => cases split
  | cons first text =>
    rw [splitScheme] at split
    split at split
    · dsimp only at split
      split at split
      · next rest later =>
        obtain ⟨-, rfl⟩ := Prod.mk.inj (Option.some.inj split)
        intro c member
        exact List.dropWhile_subset _ (later ▸ List.mem_cons_of_mem ':' member)
      · cases split
    · cases split

/-- The front of an address, tidied before a slash. -/
def tidyFront (text : List Char) : List Char :=
  (text.dropWhile fun c => c.toNat ≤ 0x20).filter fun c => !(c == '\t' || c == '\n' || c == '\r')

/-- A tidied front is part of the text. -/
theorem tidyFront_subset (text : List Char) : tidyFront text ⊆ text :=
  fun _ member => List.dropWhile_subset _ (List.mem_filter.mp member).1

/-- Nothing is tidied after a slash that is followed by plain characters only. -/
theorem tidy_slash (text : List Char) {rest : List Char} (plain : ∀ c ∈ rest, 0x20 < c.toNat) :
    tidy (text ++ '/' :: rest) = tidyFront text ++ '/' :: rest := by
  have plainTail : ∀ c ∈ '/' :: rest, 0x20 < c.toNat := by
    rintro c (_ | ⟨_, member⟩)
    · decide
    · exact plain c member
  obtain ⟨first, last, split⟩ : ∃ first last, '/' :: rest = first ++ [last] := by
    rcases List.eq_nil_or_concat ('/' :: rest) with none | ⟨first, last, split⟩
    · cases none
    · exact ⟨first, last, split.trans List.concat_eq_append⟩
  have start : (text ++ '/' :: rest).dropWhile (fun c => decide (c.toNat ≤ 0x20)) =
      text.dropWhile (fun c => decide (c.toNat ≤ 0x20)) ++ '/' :: rest :=
    dropWhile_append_stop (by decide) text rest
  have edge : ¬decide (last.toNat ≤ 0x20) = true := by
    have plainLast := plainTail last (split ▸ List.mem_append_right first List.mem_cons_self)
    simpa using plainLast
  have ending (front : List Char) :
      ((front ++ '/' :: rest).reverse.dropWhile fun c => decide (c.toNat ≤ 0x20)) =
        (front ++ '/' :: rest).reverse := by
    rw [split, ← List.append_assoc, List.reverse_append, List.reverse_singleton,
      List.singleton_append]
    exact List.dropWhile_cons_of_neg edge
  have kept : ('/' :: rest).filter (fun c => !(c == '\t' || c == '\n' || c == '\r')) =
      '/' :: rest := by
    refine List.filter_eq_self.mpr fun c member => ?_
    have visible := plainTail c member
    have others : c ≠ '\t' ∧ c ≠ '\n' ∧ c ≠ '\r' := by
      refine ⟨?_, ?_, ?_⟩ <;> rintro rfl <;> exact absurd visible (by decide)
    simp [others]
  rw [tidy, start, ending, List.reverse_reverse, List.filter_append, kept, tidyFront]

/-- The tail of an address says nothing about its scheme. -/
@[simp]
theorem scheme_withTail (url : Url) (write : List Char → String) (text : List Char) :
    (url.withTail write text).scheme = url.scheme := rfl

/-- What follows two slashes has the scheme before them. -/
theorem scheme_of_readBeyondSlashes {scheme : String} {text : List Char} {url : Url}
    (read : readBeyondSlashes scheme text = some url) : url.scheme = scheme := by
  simp only [readBeyondSlashes, Option.bind_eq_bind, Option.bind_eq_some_iff] at read
  obtain ⟨user, -, host, -, read⟩ := read
  split at read
  · cases read
  · cases read
    rfl

/-- The address of a file has the scheme of files. -/
theorem scheme_of_readFile {text : List Char} {url : Url} (read : readFile text = some url) :
    url.scheme = "file" := by
  simp only [readFile] at read
  split at read
  · split at read
    · split at read
      · cases read
        rfl
      · simp only [Option.bind_eq_bind, Option.bind_eq_some_iff] at read
        obtain ⟨name, -, read⟩ := read
        split at read
        · cases read
          rfl
        · split at read
          · cases read
            rfl
          · cases read
            rfl
    · cases read
      rfl
  · cases read
    rfl

/-- An address of another scheme has that scheme. -/
theorem scheme_of_readOther {scheme : String} {text : List Char} {url : Url}
    (read : readOther scheme text = some url) : url.scheme = scheme := by
  unfold readOther at read
  split at read
  · exact scheme_of_readBeyondSlashes read
  · cases read
    rfl
  · cases read
    rfl

/-- Reads what follows a scheme, from nowhere else. -/
def readAfterScheme (scheme : String) (text : List Char) : Option Url :=
  match kindOf scheme with
  | .web => readWeb none scheme text
  | .file => readFile text
  | .other => readOther scheme text

/-- An address that is read as a whole has the scheme that it starts with. -/
theorem scheme_of_readAfterScheme {scheme : String} {text : List Char} {url : Url}
    (read : readAfterScheme scheme text = some url) : kindOf url.scheme = kindOf scheme := by
  unfold readAfterScheme at read
  split at read
  · exact congrArg kindOf (scheme_of_readBeyondSlashes read)
  · next files =>
    rw [scheme_of_readFile read, files]
    rfl
  · exact congrArg kindOf (scheme_of_readOther read)

/-- The scheme is found before a slash. -/
theorem parse_slash (base text : String) (plain : ∀ c ∈ text.toList, 0x20 < c.toNat) :
    parse (base ++ "/" ++ text) =
      (splitScheme (tidyFront base.toList)).bind fun found =>
        readAfterScheme found.1 (found.2 ++ '/' :: text.toList) := by
  have chars : (base ++ "/" ++ text).toList = base.toList ++ '/' :: text.toList := by simp
  rw [parse, read, chars, tidy_slash _ plain, splitScheme_slash]
  cases splitScheme (tidyFront base.toList) with
  | none => rfl
  | some found => rfl

/-- The tail of an address goes on from the segments before a slash. -/
theorem exists_withTail_slash (url : Url) {before : List Char}
    (clear : ∀ c ∈ before, c ≠ '?' ∧ c ≠ '#') :
    ∃ kept, ∀ text : List Char, '?' ∉ text → ∃ fragment,
      url.withTail (writePath .web) (before ++ '/' :: text) = { url with
        path := extendPath .web kept (text.takeWhile (· != '#'))
        query := none
        fragment := fragment } := by
  obtain ⟨kept, paths⟩ := exists_writePath_slash before
  refine ⟨kept, fun text unasked => ?_⟩
  have unmarked : ∀ c ∈ before, (c != '#') = true := fun c member =>
    bne_iff_ne.mpr (clear c member).2
  have clearWhole : '?' ∉ before ++ '/' :: text := by
    intro member
    rcases List.mem_append.mp member with early | late
    · exact (clear _ early).1 rfl
    · exact unasked (List.mem_of_ne_of_mem (by decide) late)
  obtain ⟨fragment, split⟩ := splitTail_of_not_mem clearWhole
  have cut : (before ++ '/' :: text).takeWhile (· != '#') =
      before ++ '/' :: text.takeWhile (· != '#') := by
    rw [List.takeWhile_append_of_pos unmarked, List.takeWhile_cons_of_pos (by decide)]
  refine ⟨fragment.map writeFragment, ?_⟩
  rw [withTail, split, cut]
  simp only [paths, Option.map_none]

/-- Addresses that go on after the same slash have schemes of the same kind. -/
theorem kindOf_below {base text : String} {root url : Url}
    (plain : ∀ c ∈ text.toList, 0x20 < c.toNat) (parsed : parse (base ++ "/") = some root)
    (below : parse (base ++ "/" ++ text) = some url) :
    kindOf root.scheme = kindOf url.scheme := by
  have atSlash := parse_slash base "" (by simp)
  rw [String.append_empty, parsed] at atSlash
  obtain ⟨found, split, read⟩ := Option.bind_eq_some_iff.mp atSlash.symm
  rw [parse_slash base text plain, split] at below
  exact (scheme_of_readAfterScheme read).trans (scheme_of_readAfterScheme below).symm

/-- Nothing is read of no text, which names no host. -/
theorem readBeyondSlashes_nil {scheme : String} (web : kindOf scheme = .web) :
    readBeyondSlashes scheme [] = none := by
  have homeless : readHost scheme [] = none := by
    rw [readHost_eq, web]
    rfl
  simp [readBeyondSlashes, readUser, splitAtLast, homeless]

/-- What follows a scheme of the web goes on after a slash as it does at that slash. -/
theorem exists_readWeb_slash {scheme : String} {before : List Char} {root : Url}
    (web : kindOf scheme = .web) (clear : ∀ c ∈ before, c ≠ '?' ∧ c ≠ '#')
    (read : readWeb none scheme (before ++ ['/']) = some root) :
    root.query = none ∧ ∃ kept, root.directory.toList = joined kept ∧
      ∀ text : List Char, '?' ∉ text → ∃ fragment,
        readWeb none scheme (before ++ '/' :: text) = some { root with
          path := extendPath .web kept (text.takeWhile (· != '#'))
          fragment := fragment } := by
  have beyond (text : List Char) : readWeb none scheme (before ++ '/' :: text) =
      readBeyondSlashes scheme (if (before.dropWhile (isSlash .web)).isEmpty
        then text.dropWhile (isSlash .web)
        else before.dropWhile (isSlash .web) ++ '/' :: text) := by
    rw [readWeb, Option.filter_none]
    rw [List.dropWhile_append, List.dropWhile_cons_of_pos (isSlash_slash .web)]
  cases slashes : (before.dropWhile (isSlash .web)).isEmpty with
  | true =>
    rw [beyond, slashes, if_pos rfl, List.dropWhile_nil, readBeyondSlashes_nil web] at read
    cases read
  | false =>
    obtain ⟨front, found, reads⟩ :=
      exists_readBeyondSlashes_slash scheme (before.dropWhile (isSlash .web))
    simp only [beyond, slashes, Bool.false_eq_true, if_false, reads, web] at read ⊢
    obtain ⟨⟨url, lead⟩, rfl, rfl⟩ := Option.map_eq_some_iff.mp read
    obtain ⟨-, within⟩ := found _ rfl
    obtain ⟨kept, tails⟩ := exists_withTail_slash url fun c member =>
      clear c (List.dropWhile_subset _ (within member))
    obtain ⟨empty, atSlash⟩ := tails [] List.not_mem_nil
    refine ⟨by rw [atSlash], kept, ?_, fun text unasked => ?_⟩
    · rw [atSlash]
      simp [directory, toList_extendPath_nil]
    · obtain ⟨fragment, below⟩ := tails text unasked
      refine ⟨fragment, ?_⟩
      rw [Option.map_some, below, atSlash]

/-- An address that goes on after a slash is the one at that slash, with a path that goes on from
there; where it has a number sign, that cuts the path short. -/
theorem exists_parse_below {base : String} {root : Url}
    (clear : ∀ c ∈ base.toList, c ≠ '?' ∧ c ≠ '#') (parsed : parse (base ++ "/") = some root)
    (web : kindOf root.scheme = .web) :
    root.query = none ∧ ∃ kept, root.directory.toList = joined kept ∧
      ∀ text : String, (∀ c ∈ text.toList, 0x20 < c.toNat ∧ c ≠ '?') →
        ∃ fragment, parse (base ++ "/" ++ text) = some { root with
          path := extendPath .web kept (text.toList.takeWhile (· != '#'))
          fragment := fragment } := by
  have atSlash := parse_slash base "" (by simp)
  rw [String.append_empty, parsed] at atSlash
  obtain ⟨⟨scheme, rest⟩, split, read⟩ := Option.bind_eq_some_iff.mp atSlash.symm
  have isWeb : kindOf scheme = .web := (scheme_of_readAfterScheme read).symm.trans web
  have inBase : rest ⊆ base.toList :=
    List.Subset.trans (subset_of_splitScheme split) (tidyFront_subset _)
  have onWeb (text : List Char) : readAfterScheme scheme text = readWeb none scheme text := by
    rw [readAfterScheme, isWeb]
  rw [onWeb] at read
  obtain ⟨unasked, kept, directory, below⟩ :=
    exists_readWeb_slash isWeb (fun c member => clear c (inBase member)) read
  refine ⟨unasked, kept, directory, fun text plain => ?_⟩
  obtain ⟨fragment, same⟩ := below text.toList fun asked => (plain _ asked).2 rfl
  refine ⟨fragment, ?_⟩
  rw [parse_slash base text fun c member => (plain c member).1, split, Option.bind_some, onWeb,
    same]

end Pipewright.Http.Url
