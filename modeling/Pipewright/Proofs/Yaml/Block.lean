import Pipewright.Proofs.Yaml.Scalar
import Pipewright.Text.Split

/-!
# Block documents of YAML

A document is read line by line. A line is the entry of a mapping or the item of a sequence, and
what belongs to it are the lines after it that are indented deeper (sections 8.2.1 and 8.2.2 of
YAML 1.2); several items and an entry may start on one line, each as far in as its characters are.
On a line a value may be a scalar, a list of scalars in brackets, or an empty mapping. Documents
with anything else are not read; how long a key may be is not looked at.
-/
namespace Pipewright.Yaml

/-- What a document says. -/
inductive Node where
  /-- A scalar. -/
  | scalar (s : Scalar)
  /-- Keys with their values in order, repeated ones among them. -/
  | mapping (entries : List (Scalar × Node))
  /-- Values in order. -/
  | sequence (items : List Node)

namespace Node

/-- What stands where nothing is written. -/
def absent : Node := .scalar ⟨"", false⟩

mutual

/-- The keys of every mapping in a document, for what they stand. -/
def mappings : Node → List (List Value)
  | scalar _ => []
  | mapping entries => (entries.map fun entry => entry.1.value) :: entryMappings entries
  | sequence items => itemMappings items

/-- The keys of every mapping in the values of entries. -/
def entryMappings : List (Scalar × Node) → List (List Value)
  | [] => []
  | (_, value) :: entries => mappings value ++ entryMappings entries

/-- The keys of every mapping in items. -/
def itemMappings : List Node → List (List Value)
  | [] => []
  | item :: items => mappings item ++ itemMappings items

end

/-- Whether no mapping in a document has a key twice. -/
def HasDistinctKeys (node : Node) : Prop := ∀ keys ∈ node.mappings, keys.Nodup

section DistinctKeys

variable {s : Scalar} {entries : List (Scalar × Node)} {items : List Node}

/-- A scalar has no keys. -/
theorem hasDistinctKeys_scalar : (scalar s).HasDistinctKeys := by
  intro keys member
  cases member

/-- A mapping has distinct keys when its own are distinct and those of its values are. -/
theorem hasDistinctKeys_mapping :
    (mapping entries).HasDistinctKeys ↔
      (entries.map fun entry => entry.1.value).Nodup ∧
        ∀ entry ∈ entries, entry.2.HasDistinctKeys := by
  have values : (∀ keys ∈ entryMappings entries, keys.Nodup) ↔
      ∀ entry ∈ entries, entry.2.HasDistinctKeys := by
    induction entries with
    | nil => simp [entryMappings]
    | cons entry entries ih =>
      rw [entryMappings, List.forall_mem_append, List.forall_mem_cons, ih, HasDistinctKeys]
  rw [HasDistinctKeys, mappings, List.forall_mem_cons, values]

/-- A sequence has distinct keys when its items do. -/
theorem hasDistinctKeys_sequence :
    (sequence items).HasDistinctKeys ↔ ∀ item ∈ items, item.HasDistinctKeys := by
  unfold HasDistinctKeys
  rw [mappings]
  induction items with
  | nil => simp [itemMappings]
  | cons item items ih => rw [itemMappings, List.forall_mem_append, List.forall_mem_cons, ih]

end DistinctKeys

end Node

/-- Part of a collection. -/
inductive Piece where
  /-- A key of a mapping with its value. -/
  | entry (key : Scalar) (value : Node)
  /-- An item of a sequence. -/
  | item (value : Node)

/-- What a line has at some place. -/
inductive Mark where
  /-- A key, and its value if that is on the line. -/
  | entry (key : Scalar) (value : Option Node)
  /-- The dash of an item. -/
  | item

/-! ## Lines -/

/-- The scalars of a list up to its bracket. Fuel bounds their number. -/
def readItems : Nat → List Char → Option (List Scalar)
  | 0, _ => none
  | fuel + 1, cs => do
    let (item, rest) ← readScalar cs
    match rest with
    | [']'] => some [item]
    | ',' :: ' ' :: rest => (item :: ·) <$> readItems fuel rest
    | _ => none

/-- A value that ends with its line. -/
def readInline : List Char → Option Node
  | ['\x7b', '\x7d'] => some (.mapping [])
  | ['[', ']'] => some (.sequence [])
  | '[' :: rest => (readItems rest.length rest).map fun items => .sequence (items.map .scalar)
  | cs =>
    match readScalar cs with
    | some (s, []) => some (.scalar s)
    | _ => none

/-- An entry, as far as its line goes. -/
def readEntry (cs : List Char) : Option Mark := do
  let (key, rest) ← readScalar cs
  match rest with
  | [':'] => some (.entry key none)
  | ':' :: ' ' :: rest => (readInline rest).map fun value => .entry key (some value)
  | _ => none

/-- What a line has, each with the place at which it starts. -/
def readMarks (indent : Nat) : List Char → Option (List (Nat × Mark))
  | [] => some []
  | '-' :: ' ' :: rest => ((indent, .item) :: ·) <$> readMarks (indent + 2) rest
  | cs => (readEntry cs).map fun entry => [(indent, entry)]

section Lines

variable {cs rest : List Char} {key s : Scalar} {value : Node} {mark : Mark}

/-- A scalar alone is a value. -/
theorem readInline_scalar (read : readScalar cs = some (s, [])) :
    readInline cs = some (.scalar s) := by
  unfold readInline
  split
  · cases read
  · cases read
  · cases read
  · rw [read]

/-- A key, a colon, a space and a value are an entry. -/
theorem readEntry_value (first : readScalar cs = some (key, ':' :: ' ' :: rest))
    (second : readInline rest = some value) : readEntry cs = some (.entry key (some value)) := by
  rw [readEntry, first]
  simp [second]

/-- A key and a colon are an entry whose value is on other lines. -/
theorem readEntry_heading (first : readScalar cs = some (key, [':'])) :
    readEntry cs = some (.entry key none) := by
  rw [readEntry, first]
  rfl

/-- An entry is all that its line has. -/
theorem readMarks_entry (entry : readEntry cs = some mark) (n : Nat) :
    readMarks n cs = some [(n, mark)] := by
  unfold readMarks
  split
  · cases entry
  · cases entry
  · rw [entry]
    rfl

/-- An entry after a dash starts two characters further in. -/
theorem readMarks_item (entry : readEntry cs = some mark) (n : Nat) :
    readMarks n ('-' :: ' ' :: cs) = some [(n, .item), (n + 2, mark)] := by
  rw [readMarks, readMarks_entry entry]
  rfl

end Lines

/-! ## Blocks -/

/-- The entry that a piece is. -/
def Piece.entry? : Piece → Option (Scalar × Node)
  | entry key value => some (key, value)
  | item _ => none

/-- The value of the item that a piece is. -/
def Piece.item? : Piece → Option Node
  | entry _ _ => none
  | item value => some value

/-- The collection of pieces, all of the kind of the first one. -/
def collect : List Piece → Option Node
  | [] => some .absent
  | .entry key value :: pieces =>
    (pieces.mapM Piece.entry?).map fun entries => .mapping ((key, value) :: entries)
  | .item value :: pieces => (pieces.mapM Piece.item?).map fun items => .sequence (value :: items)

/-- The collection of pieces, all starting where the first one does. -/
def collectAt : List (Nat × Piece) → Option Node
  | [] => some .absent
  | (indent, first) :: pieces =>
    if pieces.all fun piece => piece.1 = indent then collect (first :: pieces.map Prod.snd)
    else none

/-- The pieces from a mark on, which takes those that start deeper for its own. -/
def addMark (mark : Nat × Mark) (pieces : List (Nat × Piece)) : Option (List (Nat × Piece)) := do
  let deeper := pieces.takeWhile fun piece => mark.1 < piece.1
  let rest := pieces.dropWhile fun piece => mark.1 < piece.1
  match mark.2 with
  | .entry key (some value) =>
    if deeper.isEmpty then some ((mark.1, .entry key value) :: rest) else none
  | .entry key none => (collectAt deeper).map fun value => (mark.1, .entry key value) :: rest
  | .item => (collectAt deeper).map fun value => (mark.1, .item value) :: rest

/-- The pieces from some marks on. -/
def addMarks (pieces : List (Nat × Piece)) : List (Nat × Mark) → Option (List (Nat × Piece))
  | [] => some pieces
  | mark :: marks => (addMarks pieces marks).bind (addMark mark)

/-- The pieces of lines, each given by its indentation and its text. -/
def gather : List (Nat × List Char) → Option (List (Nat × Piece))
  | [] => some []
  | (indent, text) :: lines => do
    let pieces ← gather lines
    let marks ← readMarks indent text
    addMarks pieces marks

/-- The indentation and the text of a line. -/
def outlineOf (line : List Char) : Nat × List Char :=
  ((line.takeWhile (· = ' ')).length, line.dropWhile (· = ' '))

/-- The lines of a document, each given by its indentation and its text. -/
def outlines (document : List Char) : List (Nat × List Char) :=
  (splitAtChar '\n' document).map outlineOf

/-- What a document says. -/
def read (document : String) : Option Node :=
  (gather (outlines document.toList)).bind collectAt

/-! ## Lines of a document -/

/-- The line in front is told from what follows its end. -/
theorem splitAtChar_append {separator : Char} {part : List Char}
    (apart : ∀ c ∈ part, c ≠ separator) (rest : List Char) :
    splitAtChar separator (part ++ separator :: rest) = part :: splitAtChar separator rest := by
  induction part with
  | nil => rw [List.nil_append, splitAtChar, if_pos rfl]
  | cons c part ih =>
    obtain ⟨other, apart⟩ := List.forall_mem_cons.mp apart
    rw [List.cons_append, splitAtChar, if_neg other, ih apart]

/-- The indentation of a line is told from its text. -/
theorem outlineOf_append {text : List Char} (unspaced : ∀ c ∈ text.head?, c ≠ ' ') (n : Nat) :
    outlineOf (List.replicate n ' ' ++ text) = (n, text) := by
  have spaces : ∀ c ∈ List.replicate n ' ', decide (c = ' ') = true :=
    fun c member => decide_eq_true (List.mem_replicate.mp member).2
  have ends : ∀ c ∈ text.head?, ¬decide (c = ' ') = true :=
    fun c head => by simpa using unspaced c head
  rw [outlineOf, takeWhile_run spaces ends, dropWhile_run spaces ends, List.length_replicate]

/-! ## Collections -/

/-- The pieces of a mapping. -/
def entryPieces (entries : List (Scalar × Node)) : List Piece :=
  entries.map fun entry => .entry entry.1 entry.2

/-- Pieces that start at one place. -/
def place (n : Nat) (pieces : List Piece) : List (Nat × Piece) := pieces.map fun piece => (n, piece)

/-- Pieces at one place are collected there. -/
theorem collectAt_place (n : Nat) (pieces : List Piece) :
    collectAt (place n pieces) = collect pieces := by
  cases pieces with
  | nil => rfl
  | cons first pieces =>
    have same : ((place n pieces).all fun piece => piece.1 = n) = true := by simp [place]
    have others : (place n pieces).map Prod.snd = pieces := by
      rw [place, List.map_map]
      exact List.map_id pieces
    have whole : collectAt (place n (first :: pieces)) =
        if (place n pieces).all fun piece => piece.1 = n then
          collect (first :: (place n pieces).map Prod.snd)
        else none := rfl
    rw [whole, if_pos same, others]

/-- Entries make a mapping, if there are any. -/
theorem collect_entryPieces {entries : List (Scalar × Node)} (filled : entries ≠ []) :
    collect (entryPieces entries) = some (.mapping entries) := by
  have all : ∀ entries : List (Scalar × Node),
      (entryPieces entries).mapM Piece.entry? = some entries := by
    intro entries
    induction entries with
    | nil => rfl
    | cons entry entries ih =>
      rw [entryPieces, List.map_cons, List.mapM_cons, ← entryPieces, ih]
      rfl
  cases entries with
  | nil => exact absurd rfl filled
  | cons entry entries =>
    rw [entryPieces, List.map_cons, ← entryPieces, collect, all]
    rfl

/-- Things make a mapping of their entries, if there are any. -/
theorem collect_map_entry {α : Type} (entry : α → Scalar × Node) {items : List α}
    (filled : items ≠ []) :
    collect (items.map fun a => .entry (entry a).1 (entry a).2) =
      some (.mapping (items.map entry)) := by
  have entries := collect_entryPieces (mt List.map_eq_nil_iff.mp filled : items.map entry ≠ [])
  rwa [entryPieces, List.map_map] at entries

/-- Things make a sequence of their trees, if there are any. -/
theorem collect_map_item {α : Type} (node : α → Node) {items : List α} (filled : items ≠ []) :
    collect (items.map fun a => .item (node a)) = some (.sequence (items.map node)) := by
  have all : ∀ items : List α,
      (items.map fun a => Piece.item (node a)).mapM Piece.item? = some (items.map node) := by
    intro items
    induction items with
    | nil => rfl
    | cons item items ih =>
      rw [List.map_cons, List.mapM_cons, ih]
      rfl
  cases items with
  | nil => exact absurd rfl filled
  | cons item items =>
    rw [List.map_cons, collect, all]
    rfl

/-! ## Blocks side by side and in one another -/

section Gathers

variable {n m : Nat} {text : List Char} {lines lines' : List (Nat × List Char)}
  {pieces pieces' : List Piece} {laid : List (Nat × Piece)} {key : Scalar} {value : Node}

/-- Nothing starts deeper than a place after pieces there, if nothing did before. -/
theorem head_place_append (pieces : List Piece) (ends : ∀ piece ∈ laid.head?, piece.1 ≤ n) :
    ∀ piece ∈ (place n pieces ++ laid).head?, piece.1 ≤ n := by
  intro piece head
  cases pieces with
  | nil => exact ends piece head
  | cons first pieces =>
    cases head
    exact Nat.le_refl n

/-- What starts deeper than a place is told from what does not. -/
theorem split_place (pieces : List Piece) (deep : n < m)
    (ends : ∀ piece ∈ laid.head?, piece.1 ≤ n) :
    ((place m pieces ++ laid).takeWhile fun piece => n < piece.1) = place m pieces ∧
      ((place m pieces ++ laid).dropWhile fun piece => n < piece.1) = laid := by
  have holds : ∀ piece ∈ place m pieces, decide (n < piece.1) = true := by
    intro piece member
    obtain ⟨source, -, rfl⟩ := List.mem_map.mp member
    exact decide_eq_true deep
  have shallow : ∀ piece ∈ laid.head?, ¬decide (n < piece.1) = true := by
    intro piece head
    rw [decide_eq_true_eq]
    exact Nat.not_lt.mpr (ends piece head)
  exact ⟨takeWhile_run holds shallow, dropWhile_run holds shallow⟩

/-- An entry whose value is on its line stands before what is no deeper. -/
theorem addMark_entry (ends : ∀ piece ∈ laid.head?, piece.1 ≤ n) :
    addMark (n, .entry key (some value)) laid = some (place n [.entry key value] ++ laid) := by
  obtain ⟨taken, dropped⟩ := split_place [] (Nat.lt_succ_self n) ends
  rw [place, List.map_nil, List.nil_append] at taken dropped
  simp only [addMark, taken, dropped]
  rfl

/-- A key takes deeper pieces for its value. -/
theorem addMark_heading (deep : n < m) (ends : ∀ piece ∈ laid.head?, piece.1 ≤ n)
    (whole : collect pieces = some value) :
    addMark (n, .entry key none) (place m pieces ++ laid) =
      some (place n [.entry key value] ++ laid) := by
  obtain ⟨taken, dropped⟩ := split_place pieces deep ends
  simp only [addMark, taken, dropped, collectAt_place, whole]
  rfl

/-- A dash takes deeper pieces for its item. -/
theorem addMark_item (deep : n < m) (ends : ∀ piece ∈ laid.head?, piece.1 ≤ n)
    (whole : collect pieces = some value) :
    addMark (n, .item) (place m pieces ++ laid) = some (place n [.item value] ++ laid) := by
  obtain ⟨taken, dropped⟩ := split_place pieces deep ends
  simp only [addMark, taken, dropped, collectAt_place, whole]
  rfl

/-- A line adds its marks to the pieces of the lines after it. -/
theorem gather_cons {marks : List (Nat × Mark)} (gathered : gather lines = some laid)
    (line : readMarks n text = some marks) :
    gather ((n, text) :: lines) = addMarks laid marks := by
  rw [gather, gathered, line]
  rfl

/-- Whether lines make pieces at one place, whatever lines follow that are no deeper. -/
def Gathers (lines : List (Nat × List Char)) (n : Nat) (pieces : List Piece) : Prop :=
  ∀ later laid, gather later = some laid → (∀ piece ∈ laid.head?, piece.1 ≤ n) →
    gather (lines ++ later) = some (place n pieces ++ laid)

/-- No lines make no pieces. -/
theorem gathers_nil : Gathers [] n [] := fun _ _ gathered _ => gathered

/-- Lines and others make the pieces of both. -/
theorem Gathers.append (first : Gathers lines n pieces) (others : Gathers lines' n pieces') :
    Gathers (lines ++ lines') n (pieces ++ pieces') := by
  intro later laid gathered ends
  have inner := head_place_append pieces' ends
  have placed : place n (pieces ++ pieces') = place n pieces ++ place n pieces' := List.map_append
  rw [List.append_assoc, first _ _ (others _ _ gathered ends) inner, placed, List.append_assoc]

/-- The lines of several things make the pieces of all. -/
theorem gathers_flatMap {α : Type} {render : α → List (Nat × List Char)} {piece : α → Piece}
    (each : ∀ a, Gathers (render a) n [piece a]) (items : List α) :
    Gathers (items.flatMap render) n (items.map piece) := by
  induction items with
  | nil => exact gathers_nil
  | cons item items ih => exact (each item).append ih

/-- A blank line makes nothing. -/
theorem gathers_blank (indent : Nat) : Gathers [(indent, [])] n [] := by
  intro later laid gathered _
  have line : readMarks indent [] = some [] := by rw [readMarks]
  exact gather_cons gathered line

/-- A line with a key and its value makes an entry. -/
theorem gathers_entry (line : readMarks n text = some [(n, .entry key (some value))]) :
    Gathers [(n, text)] n [.entry key value] := by
  intro later laid gathered ends
  exact (gather_cons gathered line).trans (addMark_entry ends)

/-- A line with a key and deeper lines after it make an entry. -/
theorem Gathers.heading (body : Gathers lines m pieces) (deep : n < m)
    (line : readMarks n text = some [(n, .entry key none)]) (whole : collect pieces = some value) :
    Gathers ((n, text) :: lines) n [.entry key value] := by
  intro later laid gathered ends
  have shallow : ∀ piece ∈ laid.head?, piece.1 ≤ m :=
    fun piece head => Nat.le_trans (ends piece head) (Nat.le_of_lt deep)
  have inner := body later laid gathered shallow
  exact (gather_cons inner line).trans (addMark_heading deep ends whole)

/-- A line with a dash, a key and its value, and lines after it with entries below that key, make
an item. -/
theorem Gathers.item {entries : List (Scalar × Node)}
    (body : Gathers lines (n + 2) (entryPieces entries))
    (line : readMarks n text = some [(n, .item), (n + 2, .entry key (some value))]) :
    Gathers ((n, text) :: lines) n [.item (.mapping ((key, value) :: entries))] := by
  intro later laid gathered ends
  have deep : n < n + 2 := by omega
  have shallow : ∀ piece ∈ laid.head?, piece.1 ≤ n + 2 :=
    fun piece head => Nat.le_trans (ends piece head) (Nat.le_of_lt deep)
  have inner := body later laid gathered shallow
  have level := head_place_append (entryPieces entries) shallow
  have first : addMarks (place (n + 2) (entryPieces entries) ++ laid)
      [(n + 2, .entry key (some value))] =
        some (place (n + 2) (entryPieces ((key, value) :: entries)) ++ laid) := addMark_entry level
  have whole : collect (entryPieces ((key, value) :: entries)) =
      some (.mapping ((key, value) :: entries)) := collect_entryPieces (List.cons_ne_nil _ _)
  rw [List.cons_append, gather_cons inner line, addMarks, first]
  exact addMark_item deep ends whole

/-- Lines that make pieces at the margin make a document. -/
theorem Gathers.collectAt (whole : Gathers lines n pieces)
    (collected : collect pieces = some value) :
    (gather lines).bind collectAt = some value := by
  have gathered := whole [] [] rfl nofun
  rw [List.append_nil, List.append_nil] at gathered
  rw [gathered, Option.bind_some, collectAt_place, collected]

end Gathers

end Pipewright.Yaml
