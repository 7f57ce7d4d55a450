import Pipewright.Http.Url.Path
import Pipewright.Proofs.Http.Percent
import Pipewright.Proofs.Yaml.Scalar

/-!
# Where paths lead

A path that goes on with a text is written down as that text is, with percent signs, unless one of
its segments stands for dots (`extendPath_eq_iff`). Segments of dots only take away: what the path
stands for is then shorter than it would have been, since each of them counts for a slash and at
least one more byte (`weight_followDots`), so no other segments can make up for them.
-/
namespace Pipewright.Http.Url

/-! ## Segments -/

/-- Whether a segment stands for dots that are followed. -/
def isDotted (segment : List Char) : Bool := isSingleDot segment || isDoubleDot segment

/-- Whether no segment of a text stands for dots. -/
def IsUndotted (text : List Char) : Prop :=
  ∀ segment ∈ splitSegments .web text, isDotted segment = false

/-- The segments that are left after one more that is not the last. -/
def keepSegment (kind : Kind) (kept : List (List Char)) (segment : List Char) : List (List Char) :=
  if isDoubleDot segment then takeBack kept
  else if isSingleDot segment then kept
  else kept ++ [writeSegment kind kept.isEmpty segment]

/-- There is always a segment. -/
theorem splitSegments_ne_nil (kind : Kind) (text : List Char) : splitSegments kind text ≠ [] := by
  cases text with
  | nil => simp [splitSegments]
  | cons c text =>
    rw [splitSegments]
    split
    · simp
    · split <;> simp

/-- The segments before and after a slash. -/
theorem splitSegments_append (kind : Kind) (text rest : List Char) :
    splitSegments kind (text ++ '/' :: rest) =
      splitSegments kind text ++ splitSegments kind rest := by
  induction text with
  | nil =>
    rw [List.nil_append, splitSegments, splitSegments, if_pos (by simp [isSlash])]
    rfl
  | cons c text ih =>
    rw [List.cons_append, splitSegments, splitSegments, ih]
    split
    · rfl
    · cases segments : splitSegments kind text with
      | nil => exact absurd segments (splitSegments_ne_nil kind text)
      | cons segment segments => rfl

/-- No segment of two texts with a slash between them stands for dots if none of either does. -/
theorem isUndotted_append_iff (text rest : List Char) :
    IsUndotted (text ++ '/' :: rest) ↔ IsUndotted text ∧ IsUndotted rest := by
  rw [IsUndotted, splitSegments_append]
  exact List.forall_mem_append

/-- A segment is part of the text, and the first one is its front. -/
theorem infix_of_mem_splitSegments (kind : Kind) (text : List Char) :
    (∀ segment ∈ splitSegments kind text, segment <:+: text) ∧
      ∀ segment ∈ (splitSegments kind text).head?, segment <+: text := by
  induction text with
  | nil => simp [splitSegments]
  | cons c text ih =>
    obtain ⟨parts, front⟩ := ih
    rw [splitSegments]
    split
    · refine ⟨fun segment member => ?_, by simp⟩
      rcases List.mem_cons.mp member with rfl | member
      · exact List.nil_infix
      · exact (parts segment member).trans (List.suffix_cons c text).isInfix
    · cases segments : splitSegments kind text with
      | nil => exact absurd segments (splitSegments_ne_nil kind text)
      | cons first later =>
        rw [segments] at parts front
        have starts : c :: first <+: c :: text :=
          List.cons_prefix_cons.mpr ⟨rfl, front first rfl⟩
        refine ⟨fun segment member => ?_, by simpa using starts⟩
        rcases List.mem_cons.mp member with rfl | member
        · exact starts.isInfix
        · exact (parts segment (List.mem_cons_of_mem _ member)).trans
            (List.suffix_cons c text).isInfix

/-! ## Dots -/

/-- Characters outside ASCII are left alone. -/
theorem toLower_of_not_ascii {c : Char} (large : ¬c.toNat < 128) : c.toLower = c := by
  refine dif_neg ?_
  rintro ⟨-, upper⟩
  have small : c.toNat ≤ 'Z'.toNat := upper
  exact large (Nat.lt_of_le_of_lt small (by decide))

/-- A point or a percent sign is the lower case of nothing else. -/
theorem eq_of_toLower {c mark : Char} (isMark : mark = '.' ∨ mark = '%')
    (lower : c.toLower = mark) : c = mark := by
  by_cases small : c.toNat < 128
  · rcases isMark with rfl | rfl
    · exact Yaml.forall_ascii (p := fun c => c.toLower = '.' → c = '.') (by decide) small lower
    · exact Yaml.forall_ascii (p := fun c => c.toLower = '%' → c = '%') (by decide) small lower
  · rwa [toLower_of_not_ascii small] at lower

/-- A digit in lower case was a digit. -/
theorem isSome_hexValue_of_toLower {c : Char} (digit : (hexValue c.toLower).isSome) :
    (hexValue c).isSome := by
  by_cases small : c.toNat < 128
  · exact Yaml.forall_ascii (p := fun c => (hexValue c.toLower).isSome → (hexValue c).isSome)
      (by decide) small digit
  · rwa [toLower_of_not_ascii small] at digit

/-- What starts with a point in lower case starts with one. -/
theorem head?_of_map_toLower {segment rest : List Char}
    (lower : segment.map Char.toLower = '.' :: rest) : segment.head? = some '.' := by
  obtain ⟨c, later, rfl, first, -⟩ := List.map_eq_cons_iff.mp lower
  exact congrArg some (eq_of_toLower (.inl rfl) first)

/-- What starts with the escape of a point in lower case starts with an escape. -/
theorem escape_of_map_toLower {segment rest : List Char}
    (lower : segment.map Char.toLower = '%' :: '2' :: 'e' :: rest) :
    ∃ later, segment = '%' :: later ∧ completesEscape later = true := by
  obtain ⟨sign, later, rfl, first, following⟩ := List.map_eq_cons_iff.mp lower
  obtain ⟨a, others, rfl, second, last⟩ := List.map_eq_cons_iff.mp following
  obtain ⟨b, end', rfl, third, -⟩ := List.map_eq_cons_iff.mp last
  have high : (hexValue a).isSome := isSome_hexValue_of_toLower (by rw [second]; decide)
  have low : (hexValue b).isSome := isSome_hexValue_of_toLower (by rw [third]; decide)
  exact ⟨_, congrArg (· :: a :: b :: end') (eq_of_toLower (.inr rfl) first),
    Bool.and_eq_true_iff.mpr ⟨high, low⟩⟩

/-- A segment that stands for dots starts with a point or with an escape. -/
theorem starts_of_isDotted {segment : List Char} (dotted : isDotted segment = true) :
    segment.head? = some '.' ∨
      ∃ rest, segment = '%' :: rest ∧ completesEscape rest = true := by
  simp only [isDotted, isSingleDot, isDoubleDot, Bool.or_eq_true, beq_iff_eq] at dotted
  rcases dotted with (point | escape) | (((points | mixed) | mixed) | escapes)
  · exact .inl (head?_of_map_toLower point)
  · exact .inr (escape_of_map_toLower escape)
  · exact .inl (head?_of_map_toLower points)
  · exact .inl (head?_of_map_toLower mixed)
  · exact .inr (escape_of_map_toLower mixed)
  · exact .inr (escape_of_map_toLower escapes)

/-- Without a percent sign only one or two points stand for dots. -/
theorem eq_of_isDotted {segment : List Char} (unescaped : '%' ∉ segment)
    (dotted : isDotted segment = true) : segment = ['.'] ∨ segment = ['.', '.'] := by
  have noSign {lower : List Char} (same : segment.map Char.toLower = lower) : '%' ∉ lower := by
    rintro member
    rw [← same] at member
    obtain ⟨c, within, lowered⟩ := List.mem_map.mp member
    exact unescaped (eq_of_toLower (.inr rfl) lowered ▸ within)
  simp only [isDotted, isSingleDot, isDoubleDot, Bool.or_eq_true, beq_iff_eq] at dotted
  rcases dotted with (point | escape) | (((points | mixed) | mixed) | escapes)
  · obtain ⟨c, rest, rfl, first, nothing⟩ := List.map_eq_cons_iff.mp point
    rw [eq_of_toLower (.inl rfl) first, List.map_eq_nil_iff.mp nothing]
    exact .inl rfl
  · exact absurd (by decide) (noSign escape)
  · obtain ⟨c, rest, rfl, first, later⟩ := List.map_eq_cons_iff.mp points
    obtain ⟨d, others, rfl, second, nothing⟩ := List.map_eq_cons_iff.mp later
    rw [eq_of_toLower (.inl rfl) first, eq_of_toLower (.inl rfl) second,
      List.map_eq_nil_iff.mp nothing]
    exact .inr rfl
  · exact absurd (by decide) (noSign mixed)
  · exact absurd (by decide) (noSign mixed)
  · exact absurd (by decide) (noSign escapes)

/-- A text without points and percent signs has no dots. -/
theorem isUndotted_of_forall {text : List Char} (clear : ∀ c ∈ text, c ≠ '.' ∧ c ≠ '%') :
    IsUndotted text := by
  intro segment member
  have within := ((infix_of_mem_splitSegments .web text).1 segment member).subset
  refine Bool.eq_false_iff.mpr fun dotted => ?_
  rcases starts_of_isDotted dotted with point | ⟨rest, rfl, -⟩
  · exact (clear '.' (within (List.mem_of_head? point))).1 rfl
  · exact (clear '%' (within List.mem_cons_self)).2 rfl

/-- A text without escapes, no segment of which starts with a point, has no dots. -/
theorem isUndotted_of_hasEscape {text : List Char} (plain : hasEscape text = false)
    (visible : ∀ segment ∈ splitSegments .web text, segment.head? ≠ some '.') :
    IsUndotted text := by
  intro segment member
  have within := (infix_of_mem_splitSegments .web text).1 segment member
  refine Bool.eq_false_iff.mpr fun dotted => ?_
  rcases starts_of_isDotted dotted with point | ⟨rest, rfl, complete⟩
  · exact visible segment member point
  · have escapes : hasEscape ('%' :: rest) = true := by simp [hasEscape, startsEscape, complete]
    exact Bool.false_ne_true (plain.symm.trans (hasEscape_of_isInfix within escapes))

/-- Dots are followed segment by segment up to the last. -/
theorem followDots_append (kind : Kind) (kept : List (List Char)) (segments : List (List Char))
    {later : List (List Char)} (more : later ≠ []) :
    followDots kind kept (segments ++ later) =
      followDots kind (segments.foldl (keepSegment kind) kept) later := by
  induction segments generalizing kept with
  | nil => rfl
  | cons segment segments ih =>
    have notLast : (segments ++ later).isEmpty = false := by simp [more]
    rw [List.cons_append, followDots, List.foldl_cons, keepSegment]
    simp only [notLast, Bool.false_eq_true, if_false]
    split
    · exact ih _
    · split
      · exact ih _
      · exact ih _

/-! ## Texts of segments -/

/-- Segments of the web without dots are written one after another. -/
theorem followDots_of_undotted (kept : List (List Char)) {segments : List (List Char)}
    (undotted : ∀ segment ∈ segments, isDotted segment = false) :
    followDots .web kept segments = kept ++ segments.map (percentEncode isEncodedInPath) := by
  induction segments generalizing kept with
  | nil => simp [followDots]
  | cons segment segments ih =>
    obtain ⟨single, double⟩ := Bool.or_eq_false_iff.mp (undotted segment List.mem_cons_self)
    rw [followDots, single, double]
    simp only [Bool.false_eq_true, if_false]
    rw [ih _ fun other member => undotted other (List.mem_cons_of_mem _ member)]
    simp [writeSegment]

/-- The text of segments, each after a slash. -/
def joined (segments : List (List Char)) : List Char := segments.flatMap ('/' :: ·)

/-- The segments of a text without backslashes make it up again. -/
theorem joined_splitSegments {text : List Char} (unbent : '\\' ∉ text) :
    joined (splitSegments .web text) = '/' :: text := by
  induction text with
  | nil => rfl
  | cons c text ih =>
    obtain ⟨other, later⟩ := not_or.mp (mt List.mem_cons.mpr unbent)
    rw [splitSegments]
    have whole := ih later
    split
    · next slash =>
      have isSlash : c = '/' := by simpa [Url.isSlash, Ne.symm other] using slash
      rw [isSlash, ← whole]
      rfl
    · cases segments : splitSegments .web text with
      | nil => exact absurd segments (splitSegments_ne_nil .web text)
      | cons segment segments =>
        rw [segments] at whole
        exact congrArg (fun rest => '/' :: c :: rest) (List.cons.inj whole).2

/-- The segments of a text without backslashes are written as it is. -/
theorem joined_written {text : List Char} (unbent : '\\' ∉ text) :
    joined ((splitSegments .web text).map (percentEncode isEncodedInPath)) =
      '/' :: percentEncode isEncodedInPath text := by
  have slash (segment : List Char) : percentEncode isEncodedInPath ('/' :: segment) =
      '/' :: percentEncode isEncodedInPath segment := rfl
  rw [← slash, ← joined_splitSegments unbent]
  simp only [joined, List.flatMap_map, percentEncode, List.flatMap_assoc]
  rfl

/-! ## Lengths -/

/-- How many bytes segments stand for, each with its slash. -/
def weight : List (List Char) → Nat
  | [] => 0
  | segment :: segments => 1 + (percentDecode segment).length + weight segments

/-- Some segments and others stand for as many bytes as the ones and the others. -/
theorem weight_append (segments later : List (List Char)) :
    weight (segments ++ later) = weight segments + weight later := by
  induction segments with
  | nil => simp [weight]
  | cons segment segments ih =>
    rw [List.cons_append, weight, weight, ih]
    omega

/-- A slash is read apart. -/
theorem percentDecode_slash (text rest : List Char) :
    percentDecode (text ++ '/' :: rest) =
      percentDecode text ++ utf8 ['/'] ++ percentDecode rest := by
  rw [percentDecode_append (by decide), percentDecode_cons (by decide), List.append_assoc]

/-- What two texts stand for with a slash between them has one more byte. -/
theorem length_percentDecode_slash (text rest : List Char) :
    (percentDecode (text ++ '/' :: rest)).length =
      (percentDecode text).length + 1 + (percentDecode rest).length := by
  have slash : (utf8 ['/']).length = 1 := by decide
  rw [percentDecode_slash, List.length_append, List.length_append, slash]

/-- The text of segments stands for what they do, each after a slash. -/
theorem percentDecode_joined (segments : List (List Char)) :
    percentDecode (joined segments) =
      segments.flatMap fun segment => utf8 ['/'] ++ percentDecode segment := by
  induction segments with
  | nil => rfl
  | cons segment segments ih =>
    have first : percentDecode ('/' :: segment) = utf8 ['/'] ++ percentDecode segment :=
      percentDecode_cons (by decide) segment
    cases segments with
    | nil => simpa [joined] using first
    | cons next later =>
      have following : percentDecode (joined (segment :: next :: later)) =
          percentDecode ('/' :: segment) ++ percentDecode (joined (next :: later)) :=
        percentDecode_append (by decide) ('/' :: segment) (next ++ joined later)
      rw [following, ih, first, List.flatMap_cons, List.flatMap_cons, List.flatMap_cons]

/-- The text of segments stands for as many bytes as they do. -/
theorem length_percentDecode_joined (segments : List (List Char)) :
    (percentDecode (joined segments)).length = weight segments := by
  have slash : (utf8 ['/']).length = 1 := by decide
  rw [percentDecode_joined]
  induction segments with
  | nil => rfl
  | cons segment segments ih =>
    rw [List.flatMap_cons, List.length_append, List.length_append, slash, ih, weight]

/-- Taking a segment back leaves no more. -/
theorem weight_takeBack (kept : List (List Char)) : weight (takeBack kept) ≤ weight kept := by
  unfold takeBack
  split
  · exact Nat.le_refl _
  · rcases List.eq_nil_or_concat kept with rfl | ⟨first, last, rfl⟩
    · exact Nat.le_refl _
    · rw [List.concat_eq_append, List.dropLast_concat, weight_append]
      exact Nat.le_add_right _ _

/-- No escape is made of characters that are encoded in a path. -/
theorem sparesEscapes_path : SparesEscapes isEncodedInPath := by
  refine ⟨by decide, fun c digit => ?_⟩
  obtain ⟨n, value⟩ := Option.isSome_iff_exists.mp digit
  exact Yaml.forall_ascii (p := fun c => (hexValue c).isSome → isEncodedInPath c = false)
    (by decide) (Yaml.toNat_lt_of_hexValue value) digit

/-- A segment of dots stands for something. -/
theorem length_pos_of_isDotted {segment : List Char} (dotted : isDotted segment = true) :
    0 < (percentDecode segment).length := by
  refine length_percentDecode_pos ?_
  rintro rfl
  exact absurd dotted (by decide)

/-- Where dots are followed, what is kept before the later segments is at most a slash more. -/
theorem weight_kept_of_isDotted (kept : List (List Char)) (atEnd : Bool) :
    weight (if atEnd then takeBack kept ++ [[]] else takeBack kept) ≤ weight kept + 1 ∧
      weight (if atEnd then kept ++ [[]] else kept) ≤ weight kept + 1 := by
  have back := weight_takeBack kept
  have slash : weight [[]] = 1 := rfl
  cases atEnd with
  | true =>
    simp only [if_true, weight_append]
    omega
  | false =>
    simp only [Bool.false_eq_true, if_false]
    omega

/-- One more segment adds no more than itself, and less if it stands for dots. -/
theorem exists_followDots_cons (kept : List (List Char)) (segment : List Char)
    (segments : List (List Char)) :
    ∃ next, followDots .web kept (segment :: segments) = followDots .web next segments ∧
      weight next ≤ weight kept + weight [segment] ∧
      (isDotted segment = true → weight next < weight kept + weight [segment]) := by
  have less := weight_kept_of_isDotted kept segments.isEmpty
  have alone : weight [segment] = 1 + (percentDecode segment).length := rfl
  rw [followDots]
  by_cases double : isDoubleDot segment = true
  · have dotted : isDotted segment = true := by simp [isDotted, double]
    have stands := length_pos_of_isDotted dotted
    refine ⟨if segments.isEmpty then takeBack kept ++ [[]] else takeBack kept, ?_, ?_, ?_⟩
    · simp only [double, if_true]
    · omega
    · omega
  · by_cases single : isSingleDot segment = true
    · have dotted : isDotted segment = true := by simp [isDotted, single]
      have stands := length_pos_of_isDotted dotted
      refine ⟨if segments.isEmpty then kept ++ [[]] else kept, ?_, ?_, ?_⟩
      · simp only [double, single, if_true, if_false, Bool.false_eq_true]
      · omega
      · omega
    · have grown : weight (kept ++ [percentEncode isEncodedInPath segment]) =
          weight kept + weight [segment] := by
        rw [weight_append, weight, weight, percentDecode_percentEncode sparesEscapes_path, alone]
        rfl
      refine ⟨kept ++ [percentEncode isEncodedInPath segment], ?_, Nat.le_of_eq grown, ?_⟩
      · simp [double, single, writeSegment]
      · simp [isDotted, double, single]

/-- Following dots leaves no more than there was, and less if there are any. -/
theorem weight_followDots (kept segments : List (List Char)) :
    weight (followDots .web kept segments) ≤ weight kept + weight segments ∧
      ((∃ segment ∈ segments, isDotted segment = true) →
        weight (followDots .web kept segments) < weight kept + weight segments) := by
  induction segments generalizing kept with
  | nil => exact ⟨Nat.le_refl _, fun ⟨_, member, _⟩ => absurd member List.not_mem_nil⟩
  | cons segment segments ih =>
    obtain ⟨next, same, most, fewer⟩ := exists_followDots_cons kept segment segments
    have both : weight (segment :: segments) = weight [segment] + weight segments :=
      weight_append [segment] segments
    have later := ih next
    rw [same, both]
    refine ⟨by omega, ?_⟩
    rintro ⟨other, member, dotted⟩
    rcases List.mem_cons.mp member with rfl | member
    · have here := fewer dotted
      omega
    · have there := later.2 ⟨other, member, dotted⟩
      omega

/-! ## Paths -/

/-- The text of a path of the web that goes on after segments already kept. -/
theorem toList_extendPath (kept : List (List Char)) (text : List Char) :
    (extendPath .web kept text).toList =
      joined (followDots .web kept (splitSegments .web text)) := by
  simp [extendPath, segmentsText, joined]

/-- Segments leave at least one when dots have been followed. -/
theorem followDots_ne_nil (kind : Kind) (kept : List (List Char)) {segments : List (List Char)}
    (some : segments ≠ []) : followDots kind kept segments ≠ [] := by
  induction segments generalizing kept with
  | nil => exact absurd rfl some
  | cons segment segments ih =>
    rw [followDots]
    by_cases last : segments = []
    · subst last
      simp only [List.isEmpty_nil, if_true, followDots]
      split
      · simp
      · split
        · simp
        · simp
    · split
      · exact ih _ last
      · split
        · exact ih _ last
        · exact ih _ last

/-- A path that goes on with a text is not empty. -/
theorem extendPath_ne_empty (kept : List (List Char)) (text : List Char) :
    extendPath .web kept text ≠ "" := by
  intro isEmpty
  have written := toList_extendPath kept text
  have filled := followDots_ne_nil .web kept (splitSegments_ne_nil .web text)
  rw [isEmpty] at written
  cases segments : followDots .web kept (splitSegments .web text) with
  | nil => exact filled segments
  | cons segment later => simp [segments, joined] at written

/-- A path stands for no more than what it is made of, and for less if there are dots to follow. -/
theorem length_extendPath (kept : List (List Char)) {text : List Char} (unbent : '\\' ∉ text) :
    (percentDecode (extendPath .web kept text).toList).length ≤
        (percentDecode (joined kept)).length + 1 + (percentDecode text).length ∧
      (¬IsUndotted text → (percentDecode (extendPath .web kept text).toList).length <
        (percentDecode (joined kept)).length + 1 + (percentDecode text).length) := by
  have slash : (utf8 ['/']).length = 1 := by decide
  have whole : weight (splitSegments .web text) = 1 + (percentDecode text).length := by
    rw [← length_percentDecode_joined, joined_splitSegments unbent,
      percentDecode_cons (by decide), List.length_append, slash]
  have bound := weight_followDots kept (splitSegments .web text)
  rw [toList_extendPath, length_percentDecode_joined, length_percentDecode_joined]
  rw [whole, ← Nat.add_assoc] at bound
  refine ⟨bound.1, fun dotted => bound.2 ?_⟩
  simpa [IsUndotted] using dotted

/-- A path is written as it is exactly if there are no dots to follow. -/
theorem extendPath_eq_iff (kept : List (List Char)) {text : List Char} (unbent : '\\' ∉ text) :
    (extendPath .web kept text).toList =
        joined kept ++ '/' :: percentEncode isEncodedInPath text ↔ IsUndotted text := by
  constructor
  · intro same
    have fewer := (length_extendPath kept unbent).2
    rw [same, length_percentDecode_slash, percentDecode_percentEncode sparesEscapes_path] at fewer
    exact Classical.byContradiction fun dotted => absurd (fewer dotted) (Nat.lt_irrefl _)
  · intro undotted
    rw [toList_extendPath, followDots_of_undotted kept undotted, joined, List.flatMap_append]
    exact congrArg (joined kept ++ ·) (joined_written unbent)

end Pipewright.Http.Url
