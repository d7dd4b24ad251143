import AnovaOven.Lib.Packing
import AnovaOven.PicoCore.ViewPlan

/-!
# Laws of wrapped text

The lines `wrap_lines` fills are the words of the text, packed (`filledLines_eq`): a line of several words fits
the width. Where there are more lines than it may keep, the last one it keeps is ellipsised, and fits then
or is the bare ellipsis (`ellipsise_fits`).
-/

namespace AnovaOven

/-- A line of words. -/
def joinWords (words : List String) : String := " ".intercalate words

/-- Whether a line of words fits the width. -/
def FitsWidth (measure : String → UInt32) (maxW : UInt32) (words : List String) : Prop :=
  measure (joinWords words) ≤ maxW

instance (measure : String → UInt32) (maxW : UInt32) : DecidablePred (FitsWidth measure maxW) :=
  fun words => inferInstanceAs (Decidable (measure (joinWords words) ≤ maxW))

/-- No word is empty. -/
theorem splitWhitespace_ne_empty {text word : String} (h : word ∈ splitWhitespace text) : word ≠ "" := by
  unfold splitWhitespace at h
  obtain ⟨chars, item, rfl⟩ := List.mem_map.mp h
  have some : chars ≠ [] := by simpa using (List.mem_filter.mp item).2
  intro empty
  exact some (by simpa using congrArg String.toList empty)

/-- A line is empty where it has no words. -/
theorem joinWords_eq_empty_iff {words : List String} (some : ∀ word ∈ words, word ≠ "") :
    joinWords words = "" ↔ words = [] := by
  cases words with
  | nil => exact iff_of_true rfl rfl
  | cons word rest =>
    apply iff_of_false _ (List.cons_ne_nil word rest)
    unfold joinWords
    cases rest with
    | nil =>
      rw [String.intercalate_singleton]
      exact some word List.mem_cons_self
    | cons next rest =>
      rw [String.intercalate_cons_cons]
      intro empty
      simpa using congrArg String.toList empty

theorem joinWords_concat {words : List String} (some : words ≠ []) (word : String) :
    joinWords (words ++ [word]) = joinWords words ++ " " ++ word := by
  unfold joinWords
  rw [String.intercalate_append_of_ne_nil some (List.cons_ne_nil word []), String.intercalate_singleton]

/-! ## Filling the lines -/

section Filled

variable (measure : String → UInt32) (maxW : UInt32)

/-- **The loop's body** puts a word into the line as it is packed. -/
theorem word_eq {p : Packing String} (some : ∀ word ∈ p.current, word ≠ "") (word : String) :
    Wrapping.word measure maxW ⟨p.closed.map joinWords, joinWords p.current⟩ word =
      ⟨(p.add (FitsWidth measure maxW) word).closed.map joinWords,
        joinWords (p.add (FitsWidth measure maxW) word).current⟩ := by
  have empty_iff := joinWords_eq_empty_iff some
  unfold Wrapping.word Packing.add
  by_cases empty : p.current = []
  · have blank := empty_iff.mpr empty
    dsimp only
    rw [if_pos blank, if_pos (.inl blank), if_pos (.inl empty), empty]
    rfl
  · have filled : joinWords p.current ≠ "" := fun blank => empty (empty_iff.mp blank)
    dsimp only
    rw [if_neg filled, ← joinWords_concat empty]
    by_cases fits : FitsWidth measure maxW (p.current ++ [word])
    · rw [if_pos (.inr fits), if_pos (.inr fits)]
    · have wide : ¬ measure (joinWords (p.current ++ [word])) ≤ maxW := fits
      rw [if_neg (not_or.mpr ⟨filled, wide⟩), if_neg (not_or.mpr ⟨empty, fits⟩)]
      simp [joinWords]

/-- The open line of a packing has some of the words. -/
theorem pack_current_subset {fits : List String → Prop} [DecidablePred fits] {words : List String} :
    ∀ word ∈ (pack fits words).current, word ∈ words := by
  intro word item
  rw [← @pack_flatten _ fits _ words, Packing.flatten_groups]
  exact List.mem_append_right _ item

/-- **The loop** packs the words. -/
theorem foldl_word {words : List String} (some : ∀ word ∈ words, word ≠ "") :
    words.foldl (Wrapping.word measure maxW) ⟨[], ""⟩ =
      ⟨(pack (FitsWidth measure maxW) words).closed.map joinWords,
        joinWords (pack (FitsWidth measure maxW) words).current⟩ := by
  induction words using List.reverseRecOn with
  | nil => rfl
  | append_singleton words word ih =>
    have before : ∀ word ∈ words, word ≠ "" := fun word item => some word (List.mem_append_left _ item)
    rw [List.foldl_append, List.foldl_cons, List.foldl_nil, ih before, pack_concat]
    exact word_eq measure maxW (fun word item => before word (pack_current_subset word item)) word

/-- The lines are the groups the words are packed into, and one empty line where there are no words. -/
theorem filledLines_eq (text : String) :
    filledLines measure text maxW =
      if splitWhitespace text = [] then [""]
      else (pack (FitsWidth measure maxW) (splitWhitespace text)).groups.map joinWords := by
  have some : ∀ word ∈ splitWhitespace text, word ≠ "" := fun _ item => splitWhitespace_ne_empty item
  have open_iff := joinWords_eq_empty_iff fun word item =>
    some word (@pack_current_subset (FitsWidth measure maxW) _ _ word item)
  unfold filledLines
  rw [foldl_word measure maxW some]
  dsimp only
  have lines : (if joinWords (pack (FitsWidth measure maxW) (splitWhitespace text)).current = "" then
        (pack (FitsWidth measure maxW) (splitWhitespace text)).closed.map joinWords
      else (pack (FitsWidth measure maxW) (splitWhitespace text)).closed.map joinWords ++
        [joinWords (pack (FitsWidth measure maxW) (splitWhitespace text)).current]) =
      (pack (FitsWidth measure maxW) (splitWhitespace text)).groups.map joinWords := by
    unfold Packing.groups
    by_cases blank : (pack (FitsWidth measure maxW) (splitWhitespace text)).current = []
    · rw [if_pos (open_iff.mpr blank), if_pos blank]
    · rw [if_neg (mt open_iff.mp blank), if_neg blank, List.map_append]
      rfl
  rw [lines]
  have words := @pack_flatten _ (FitsWidth measure maxW) _ (splitWhitespace text)
  by_cases none : splitWhitespace text = []
  · rw [if_pos none, none]
    rfl
  · rw [if_neg none, if_neg]
    intro blank
    rw [List.map_eq_nil_iff.mp blank] at words
    exact none words.symm

end Filled

/-! ## The last line -/

/-- A line that was shortened fits, or only its ellipsis is left. -/
theorem shorten_fits (measure : String → UInt32) (maxW : UInt32) (last : List Char) :
    measure (String.ofList (shorten measure maxW last)) ≤ maxW ∨ shorten measure maxW last = ['…'] := by
  fun_induction shorten measure maxW last with
  | case1 last wide bare => exact .inr rfl
  | case2 last wide some ih => exact ih
  | case3 last fits => exact .inl (UInt32.not_lt.mp fits)

/-- **An ellipsised line** fits the width, or is the bare ellipsis. -/
theorem ellipsise_fits (measure : String → UInt32) (maxW : UInt32) (last : String) :
    measure (ellipsise measure maxW last) ≤ maxW ∨ ellipsise measure maxW last = "…" := by
  unfold ellipsise
  exact (shorten_fits measure maxW _).imp_right fun bare => by rw [bare]

/-! ## All the lines -/

section Wrapped

variable (measure : String → UInt32) (text : String) (maxW : UInt32)

/-- The words of each line that is filled. -/
def lineWords : List (List String) := (pack (FitsWidth measure maxW) (splitWhitespace text)).groups

/-- Lines one after another have the words they have. -/
theorem joinWords_map {groups : List (List String)} (some : ∀ group ∈ groups, group ≠ []) :
    joinWords (groups.map joinWords) = joinWords groups.flatten := by
  induction groups with
  | nil => rfl
  | cons group groups ih =>
    have rest := ih fun group item => some group (List.mem_cons_of_mem _ item)
    cases groups with
    | nil => simp [joinWords]
    | cons next groups =>
      have next_some : (next :: groups).flatten ≠ [] := by
        simp [some next (List.mem_cons_of_mem _ List.mem_cons_self)]
      have split : joinWords (group :: next :: groups).flatten =
          joinWords group ++ " " ++ joinWords (next :: groups).flatten :=
        String.intercalate_append_of_ne_nil (some group List.mem_cons_self) next_some
      rw [split, ← rest]
      exact String.intercalate_cons_cons

/-- No line is filled with nothing. -/
theorem lineWords_ne_nil : ∀ group ∈ lineWords measure text maxW, group ≠ [] :=
  fun group item => (pack_packed _ group item).ne_nil

/-- A filled line fits, or is one of the words. -/
theorem lineWords_fit {group : List String} (item : group ∈ lineWords measure text maxW) :
    measure (joinWords group) ≤ maxW ∨ joinWords group ∈ splitWhitespace text := by
  rcases (pack_packed _ group item).fits with fits | single
  · exact .inl fits
  · obtain ⟨word, rfl⟩ := List.length_eq_one_iff.mp single
    right
    rw [← @pack_flatten _ (FitsWidth measure maxW) _ (splitWhitespace text)]
    have word_eq : joinWords [word] = word := String.intercalate_singleton
    rw [word_eq]
    exact List.mem_flatten.mpr ⟨[word], item, List.mem_singleton_self word⟩

/-- A text with words fills its lines with them. -/
theorem filledLines_words (words : splitWhitespace text ≠ []) :
    filledLines measure text maxW = (lineWords measure text maxW).map joinWords := by
  rw [filledLines_eq, if_neg words]
  rfl

theorem filledLines_blank (blank : splitWhitespace text = []) :
    filledLines measure text maxW = [""] := by
  rw [filledLines_eq, if_pos blank]

theorem filledLines_ne_nil : filledLines measure text maxW ≠ [] := by
  by_cases blank : splitWhitespace text = []
  · rw [filledLines_blank measure text maxW blank]
    exact List.cons_ne_nil "" []
  · rw [filledLines_words measure text maxW blank]
    intro none
    have words := @pack_flatten _ (FitsWidth measure maxW) _ (splitWhitespace text)
    rw [← lineWords, List.map_eq_nil_iff.mp none] at words
    exact blank words.symm

/-- Lines that aren't too many are all kept. -/
theorem wrapLines_whole {maxLines : Nat}
    (whole : (filledLines measure text maxW).length ≤ maxLines) :
    wrapLines measure text maxW maxLines = filledLines measure text maxW :=
  if_neg (Nat.not_lt.mpr whole)

/-- Of too many lines the first are kept, and the last of them is ellipsised. -/
theorem wrapLines_cut {maxLines : Nat} (room : 1 ≤ maxLines)
    (cut : maxLines < (filledLines measure text maxW).length) :
    ∃ last, wrapLines measure text maxW maxLines =
      (filledLines measure text maxW).take (maxLines - 1) ++ [ellipsise measure maxW last] := by
  have kept_length : ((filledLines measure text maxW).take maxLines).length = maxLines := by
    rw [List.length_take]
    omega
  unfold wrapLines
  dsimp only
  rw [if_pos cut]
  cases kept : ((filledLines measure text maxW).take maxLines).getLast? with
  | none =>
    rw [List.getLast?_eq_none_iff.mp kept, List.length_nil] at kept_length
    omega
  | some last => exact ⟨last, by rw [List.dropLast_take cut]⟩

/-- **Wrapped text.** There is a line at least, and no more than may be. Where none had to go, the lines have
the words of the text; else each but the last has some of them, in order, and the last one fits the width
or is the bare ellipsis. A line that wasn't ellipsised fits the width, is a single word, or is the empty
line of a text without words. -/
theorem wrapped {maxLines : Nat} (room : 1 ≤ maxLines) :
    (1 ≤ (wrapLines measure text maxW maxLines).length ∧
        (wrapLines measure text maxW maxLines).length ≤ maxLines) ∧
      ((filledLines measure text maxW).length ≤ maxLines →
        joinWords (wrapLines measure text maxW maxLines) = joinWords (splitWhitespace text) ∧
          ∀ line ∈ wrapLines measure text maxW maxLines,
            measure line ≤ maxW ∨ line ∈ splitWhitespace text ∨
              (line = "" ∧ splitWhitespace text = [])) ∧
      (maxLines < (filledLines measure text maxW).length →
        (∃ (groups : List (List String)) (rest : List String),
            splitWhitespace text = groups.flatten ++ rest ∧
            (wrapLines measure text maxW maxLines).dropLast = groups.map joinWords) ∧
          (∀ line ∈ (wrapLines measure text maxW maxLines).dropLast,
            measure line ≤ maxW ∨ line ∈ splitWhitespace text) ∧
          ∃ last, (wrapLines measure text maxW maxLines).getLast? = some last ∧
            (measure last ≤ maxW ∨ last = "…")) := by
  have positive := List.length_pos_iff.mpr (filledLines_ne_nil measure text maxW)
  have flatten : (lineWords measure text maxW).flatten = splitWhitespace text := pack_flatten _
  refine ⟨?lengths, ?whole, ?cut⟩
  case lengths =>
    rcases Nat.lt_or_ge maxLines (filledLines measure text maxW).length with cut | whole
    · obtain ⟨last, eq⟩ := wrapLines_cut measure text maxW room cut
      rw [eq, List.length_append, List.length_take, List.length_singleton]
      omega
    · rw [wrapLines_whole measure text maxW whole]
      omega
  case whole =>
    intro whole
    rw [wrapLines_whole measure text maxW whole]
    by_cases blank : splitWhitespace text = []
    · rw [filledLines_blank measure text maxW blank, blank]
      refine ⟨rfl, fun line item => .inr (.inr ⟨List.mem_singleton.mp item, rfl⟩)⟩
    · rw [filledLines_words measure text maxW blank]
      constructor
      · rw [joinWords_map (lineWords_ne_nil measure text maxW), flatten]
      · intro line item
        obtain ⟨group, member, rfl⟩ := List.mem_map.mp item
        exact (lineWords_fit measure text maxW member).imp_right .inl
  case cut =>
    intro cut
    have words : splitWhitespace text ≠ [] := by
      intro blank
      rw [filledLines_blank measure text maxW blank, List.length_singleton] at cut
      omega
    obtain ⟨last, eq⟩ := wrapLines_cut measure text maxW room cut
    have kept : (wrapLines measure text maxW maxLines).dropLast =
        ((lineWords measure text maxW).take (maxLines - 1)).map joinWords := by
      rw [eq, List.dropLast_concat, filledLines_words measure text maxW words, List.map_take]
    refine ⟨⟨_, ((lineWords measure text maxW).drop (maxLines - 1)).flatten, ?_, kept⟩, ?_, ?_⟩
    · rw [← List.flatten_append, List.take_append_drop, flatten]
    · intro line item
      rw [kept] at item
      obtain ⟨group, member, rfl⟩ := List.mem_map.mp item
      exact lineWords_fit measure text maxW (List.mem_of_mem_take member)
    · exact ⟨_, by rw [eq, List.getLast?_concat], ellipsise_fits measure maxW last⟩

end Wrapped

/-- Four words on two lines of five characters each. -/
theorem wrapped_two :
    1 ≤ (wrapLines (fun line => line.length.toUInt32) "aa bb cc dd ee" 5 2).length ∧
      (wrapLines (fun line => line.length.toUInt32) "aa bb cc dd ee" 5 2).length ≤ 2 :=
  (@wrapped (fun line => line.length.toUInt32) "aa bb cc dd ee" 5 2 (by omega)).1

/-- In a font that gives the empty text a width, the line of a text without words neither fits a narrower
panel nor is a word. -/
theorem blank_line_wide :
    ¬ ∀ (measure : String → UInt32) (text : String) (maxW : UInt32) (maxLines : Nat), 1 ≤ maxLines →
      (filledLines measure text maxW).length ≤ maxLines →
        ∀ line ∈ wrapLines measure text maxW maxLines,
          measure line ≤ maxW ∨ line ∈ splitWhitespace text := by
  intro always
  have blank : splitWhitespace "" = [] := by decide +kernel
  have filled := filledLines_blank (fun _ => 1) "" 0 blank
  have whole : (filledLines (fun _ => 1) "" 0).length ≤ 1 := by rw [filled]; exact Nat.le_refl 1
  have line : "" ∈ wrapLines (fun _ => 1) "" 0 1 := by
    rw [wrapLines_whole _ _ _ whole, filled]
    exact List.mem_singleton_self ""
  rcases always (fun _ => 1) "" 0 1 (Nat.le_refl 1) whole "" line with fits | word
  · exact absurd fits (by decide)
  · rw [blank] at word
    exact absurd word List.not_mem_nil

end AnovaOven
