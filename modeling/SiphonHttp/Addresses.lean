import SiphonHttp.Boundary

/-!
The texts of addresses. Every address is read back from its own text, in front
of whatever could not belong to it. So a script can read both ends of the
connection off its request (`ends_read_back`), and who is trusted can be told by
comparing texts: an entry of `trusted_proxies` that is written as peers are
means that peer and no other (`trusted_as_written`).
-/
namespace SiphonHttp.Net
open Text

/-! ### Numbers -/

section
variable {radix : Nat}

theorem digit_digitChar (small : radix ≤ 16) {n : Nat} (below : n < radix) : digit radix n.digitChar = some n := by
  have all : ∀ m < 16, digit 16 m.digitChar = some m := by decide
  have read := all n (Nat.lt_of_lt_of_le below small)
  unfold digit at read ⊢
  rw [Option.filter_eq_some_iff] at read ⊢
  exact ⟨read.1, decide_eq_true below⟩

/-- The characters of a number are digits. -/
theorem digits_written (big : 1 < radix) (small : radix ≤ 16) (n : Nat) :
    ∀ c ∈ Nat.toDigits radix n, (digit radix c).isSome = true := by
  induction n using Nat.strongRecOn with
  | _ n ih =>
    rw [Nat.toDigits_eq_if big]
    split_ifs with single
    · simp [digit_digitChar small single]
    · intro c member
      rcases List.mem_append.mp member with before | last
      · exact ih _ (Nat.div_lt_self (by omega) big) c before
      · rw [List.mem_singleton.mp last, digit_digitChar small (Nat.mod_lt _ (by omega))]
        rfl

/-- Their value is the number. -/
theorem value_written (big : 1 < radix) (small : radix ≤ 16) (n : Nat) :
    (Nat.toDigits radix n).foldl (fun value c => value * radix + (digit radix c).getD 0) 0 = n := by
  induction n using Nat.strongRecOn with
  | _ n ih =>
    rw [Nat.toDigits_eq_if big]
    split_ifs with single
    · simp [digit_digitChar small single]
    · rw [List.foldl_append, ih _ (Nat.div_lt_self (by omega) big), List.foldl_cons, List.foldl_nil,
        digit_digitChar small (Nat.mod_lt _ (by omega)), Option.getD_some]
      exact Nat.div_add_mod' n radix

/-- Only zero is written with a zero in front. -/
theorem leading_zero (big : 1 < radix) {n : Nat} (zero : (Nat.toDigits radix n).head? = some '0') : n = 0 := by
  induction n using Nat.strongRecOn with
  | _ n ih =>
    rw [Nat.toDigits_eq_if big] at zero
    split_ifs at zero with single
    · simpa using zero
    · rw [List.head?_append_of_ne_nil _ Nat.toDigits_ne_nil] at zero
      have none_left := ih _ (Nat.div_lt_self (by omega) big) zero
      exact absurd none_left (Nat.div_pos (Nat.le_of_not_lt single) (by omega)).ne'

/-- No digit stands in front of the text. -/
def Stops (radix : Nat) (rest : Text) : Prop := ∀ c ∈ rest.head?, digit radix c = none

theorem stops_nil : Stops radix [] := by
  intro c member
  cases member

theorem stops_cons {c : Char} {rest : Text} : Stops radix (c :: rest) ↔ digit radix c = none := by
  simp [Stops]

theorem takeWhile_stops {rest : Text} (stops : Stops radix rest) :
    rest.takeWhile (fun c => (digit radix c).isSome) = [] := by
  cases rest with
  | nil => rfl
  | cons c rest =>
    rw [List.takeWhile_cons_of_neg]
    simp [stops_cons.mp stops]

/-- A number is read back from its text. -/
theorem read_number_written (big : 1 < radix) (small : radix ≤ 16) {max_digits bound n : Nat} {leading_zeros : Bool}
    (short : (Nat.toDigits radix n).length ≤ max_digits) (below : n < bound) {rest : Text} (stops : Stops radix rest) :
    read_number radix max_digits bound leading_zeros (Nat.toDigits radix n ++ rest) = some (n, rest) := by
  have digits : (Nat.toDigits radix n ++ rest).takeWhile (fun c => (digit radix c).isSome) = Nat.toDigits radix n := by
    rw [List.takeWhile_append_of_pos (digits_written big small n), takeWhile_stops stops, List.append_nil]
  have plain : (!leading_zeros && (Nat.toDigits radix n).head? = some '0' && 1 < (Nat.toDigits radix n).length) = false := by
    by_cases zero : (Nat.toDigits radix n).head? = some '0'
    · obtain rfl := leading_zero big zero
      simp
    · simp [zero]
  have positive : 0 < (Nat.toDigits radix n).length := Nat.length_toDigits_pos
  unfold read_number
  rw [digits]
  dsimp only
  rw [value_written big small, if_neg (by omega), plain, if_neg Bool.false_ne_true, if_pos below, List.drop_left]

theorem read_number_stops {max_digits bound : Nat} {leading_zeros : Bool} {input : Text} (stops : Stops radix input) :
    read_number radix max_digits bound leading_zeros input = none := by
  unfold read_number
  rw [takeWhile_stops stops]
  exact if_pos (Or.inl rfl)

/-- What is left behind a number that was read. -/
theorem read_number_left {max_digits bound value : Nat} {leading_zeros : Bool} {input left : Text}
    (read : read_number radix max_digits bound leading_zeros input = some (value, left)) :
    left = input.dropWhile fun c => (digit radix c).isSome := by
  have parts := List.takeWhile_append_dropWhile (p := fun c => (digit radix c).isSome) (l := input)
  unfold read_number at read
  dsimp only at read
  split_ifs at read
  cases read
  calc input.drop (input.takeWhile fun c => (digit radix c).isSome).length
      = (input.takeWhile (fun c => (digit radix c).isSome) ++ input.dropWhile fun c => (digit radix c).isSome).drop
          (input.takeWhile fun c => (digit radix c).isSome).length := by rw [parts]
    _ = input.dropWhile fun c => (digit radix c).isSome := List.drop_left

end

theorem decimal_length {n : Nat} (below : n < 256) : (decimal n).length ≤ 3 :=
  (Nat.length_toDigits_le_iff (by decide) (by decide)).mpr (by omega)

theorem hex_length {n : Nat} (below : n < 65536) : (hex n).length ≤ 4 :=
  (Nat.length_toDigits_le_iff (by decide) (by decide)).mpr (by omega)

/-- What ends a decimal number ends a hexadecimal one too where it is no letter. -/
theorem Stops.decimal {rest : Text} (stops : Stops 16 rest) : Stops 10 rest := by
  intro c member
  have none_of := stops c member
  unfold digit at none_of ⊢
  rw [Option.filter_eq_none_iff] at none_of ⊢
  intro value read below
  exact none_of value read (decide_eq_true (Nat.lt_trans (of_decide_eq_true below) (by decide)))

/-! ### The dotted form -/

theorem read_separator_first {Item : Type} (separator : Char) (inner : Read Item) :
    read_separator separator 0 inner = inner := by
  funext input
  exact if_neg (Nat.lt_irrefl 0)

theorem read_separator_next {Item : Type} (separator : Char) {index : Nat} (next : 0 < index) (inner : Read Item)
    (rest : Text) : read_separator separator index inner (separator :: rest) = inner rest := by
  rw [read_separator, if_pos next, read_given_char, if_pos rfl]
  rfl

theorem read_separator_other {Item : Type} {separator : Char} {index : Nat} (next : 0 < index) (inner : Read Item)
    {input : Text} (other : input.head? ≠ some separator) : read_separator separator index inner input = none := by
  rw [read_separator, if_pos next]
  cases input with
  | nil => rfl
  | cons first rest =>
    rw [read_given_char, if_neg fun same => other (congrArg some same)]
    rfl

theorem ipv4_text_eq (a b c d : UInt8) :
    ipv4_text a b c d =
      decimal a.toNat ++ '.' :: (decimal b.toNat ++ '.' :: (decimal c.toNat ++ '.' :: decimal d.toNat)) := by
  simp [ipv4_text, join, List.intercalate, List.intersperse]

/-- An octet is read back in front of what is no digit. -/
theorem read_octet (octet : UInt8) {rest : Text} (stops : Stops 10 rest) :
    read_number 10 3 256 false (decimal octet.toNat ++ rest) = some (octet.toNat, rest) :=
  read_number_written (by decide) (by decide) (decimal_length octet.toNat_lt) octet.toNat_lt stops

theorem read_ipv4_text (a b c d : UInt8) {rest : Text} (stops : Stops 10 rest) :
    read_ipv4_addr (ipv4_text a b c d ++ rest) = some ((a, b, c, d), rest) := by
  have dot (text : Text) : Stops 10 ('.' :: text) := stops_cons.mpr (by decide)
  rw [ipv4_text_eq]
  simp only [read_ipv4_addr, List.append_assoc, List.cons_append, read_separator_first,
    read_separator_next '.' (show 0 < 1 by decide), read_separator_next '.' (show 0 < 2 by decide),
    read_separator_next '.' (show 0 < 3 by decide), read_octet _ (dot _), read_octet _ stops, Option.bind_eq_bind,
    Option.bind_some, Option.pure_def, UInt8.ofNat_toNat]

/-- Where no dot follows the digits in front, there is no dotted address. -/
theorem read_ipv4_other {input : Text}
    (other : (input.dropWhile fun c => (digit 10 c).isSome).head? ≠ some '.') : read_ipv4_addr input = none := by
  unfold read_ipv4_addr
  dsimp only
  rw [read_separator_first]
  cases read : read_number 10 3 256 false input with
  | none => rfl
  | some first =>
    obtain ⟨value, left⟩ := first
    rw [read_number_left read]
    simp [read_separator_other (show 0 < 1 by decide) _ other]

/-- So a text of other characters in front of what is neither a digit nor a dot
    is none. -/
theorem read_ipv4_plain {digits rest : Text} (plain : '.' ∉ digits) (stops : Stops 10 rest)
    (other : rest.head? ≠ some '.') : read_ipv4_addr (digits ++ rest) = none := by
  refine read_ipv4_other ?_
  rw [List.dropWhile_append]
  split_ifs with all
  · cases rest with
    | nil => exact other
    | cons c rest =>
      rw [List.dropWhile_cons_of_neg (by simp [stops_cons.mp stops])]
      exact other
  · cases left : digits.dropWhile fun c => (digit 10 c).isSome with
    | nil => simp [left] at all
    | cons c left' =>
      intro dot
      have member : c ∈ digits := (List.dropWhile_suffix _).subset (left ▸ List.mem_cons_self)
      rw [List.cons_append, List.head?_cons, Option.some.injEq] at dot
      exact plain (dot ▸ member)

theorem read_ipv4_stops {rest : Text} (stops : Stops 10 rest) (other : rest.head? ≠ some '.') :
    read_ipv4_addr rest = none :=
  @read_ipv4_plain [] rest List.not_mem_nil stops other

/-! ### Groups -/

/-- Nothing in front of the text is a group of the index. -/
structure Bare (i : Nat) (rest : Text) : Prop where
  no_ipv4 : read_separator ':' i read_ipv4_addr rest = none
  no_group : read_separator ':' i (read_number 16 4 65536 true) rest = none

/-- What is no part of an address that stands in front of it. -/
structure Ends (rest : Text) : Prop where
  stops : Stops 16 rest
  no_dot : rest.head? ≠ some '.'
  no_colon : rest.head? ≠ some ':'

theorem ends_nil : Ends [] := ⟨stops_nil, by simp, by simp⟩

theorem ends_cons {c : Char} (stops : digit 16 c = none) (no_dot : c ≠ '.') (no_colon : c ≠ ':') (rest : Text) :
    Ends (c :: rest) :=
  ⟨stops_cons.mpr stops, fun same => no_dot (Option.some.inj same), fun same => no_colon (Option.some.inj same)⟩

theorem Ends.bare {rest : Text} (ends : Ends rest) (i : Nat) : Bare i rest := by
  by_cases next : 0 < i
  · exact ⟨read_separator_other next _ ends.no_colon, read_separator_other next _ ends.no_colon⟩
  · obtain rfl := Nat.eq_zero_of_not_pos next
    constructor
    · rw [read_separator_first]
      exact read_ipv4_stops ends.stops.decimal ends.no_dot
    · rw [read_separator_first]
      exact read_number_stops ends.stops

theorem stops_colon (rest : Text) : Stops 16 (':' :: rest) := stops_cons.mpr (by decide)

theorem colon_no_dot (rest : Text) : (':' :: rest).head? ≠ some '.' := by simp

/-- Two colons end the groups in front of them. -/
theorem bare_colons (i : Nat) (rest : Text) : Bare i (':' :: ':' :: rest) := by
  by_cases next : 0 < i
  · constructor
    · rw [read_separator_next ':' next]
      exact read_ipv4_stops (stops_colon rest).decimal (colon_no_dot rest)
    · rw [read_separator_next ':' next]
      exact read_number_stops (stops_colon rest)
  · obtain rfl := Nat.eq_zero_of_not_pos next
    constructor
    · rw [read_separator_first]
      exact read_ipv4_stops (stops_colon _).decimal (colon_no_dot _)
    · rw [read_separator_first]
      exact read_number_stops (stops_colon _)

theorem Bare.read_groups {i : Nat} {rest : Text} (bare : Bare i rest) (left : Nat) :
    read_groups left i rest = ([], false, rest) := by
  cases left with
  | zero => rfl
  | succ left => simp only [Net.read_groups, bare.no_ipv4, bare.no_group, ite_self]

/-- The separator of a group. -/
def separated (i : Nat) (text : Text) : Text := if 0 < i then ':' :: text else text

theorem read_separator_separated {Item : Type} (i : Nat) (inner : Read Item) (text : Text) :
    read_separator ':' i inner (separated i text) = inner text := by
  unfold separated
  split_ifs with next
  · exact read_separator_next ':' next inner text
  · obtain rfl := Nat.eq_zero_of_not_pos next
    rw [read_separator_first]

theorem hex_no_dot (segment : UInt16) : '.' ∉ hex segment.toNat := by
  intro dot
  have is_digit := digits_written (by decide) (by decide) segment.toNat '.' dot
  revert is_digit
  decide

/-- A group is read back in front of what ends it. -/
theorem read_groups_group (left i : Nat) (segment : UInt16) {rest : Text} (stops : Stops 16 rest)
    (no_dot : rest.head? ≠ some '.') :
    read_groups (left + 1) i (separated i (hex segment.toNat ++ rest)) =
      (segment :: (read_groups left (i + 1) rest).1, (read_groups left (i + 1) rest).2) := by
  have group : read_number 16 4 65536 true (hex segment.toNat ++ rest) = some (segment.toNat, rest) :=
    read_number_written (by decide) (by decide) (hex_length segment.toNat_lt) segment.toNat_lt stops
  rw [Net.read_groups, read_separator_separated, read_ipv4_plain (hex_no_dot segment) stops.decimal no_dot,
    ite_self]
  dsimp only
  rw [read_separator_separated, group]
  simp only [UInt16.ofNat_toNat]

/-- The groups behind another one. -/
def behind (segments : List UInt16) : Text := segments.flatMap fun segment => ':' :: hex segment.toNat

theorem segments_text_cons (segment : UInt16) (segments : List UInt16) :
    segments_text (segment :: segments) = hex segment.toNat ++ behind segments := by
  induction segments generalizing segment with
  | nil => simp [segments_text, join, behind]
  | cons next segments ih =>
    have rest := ih next
    simp only [segments_text, join, List.map_cons, List.intercalate_cons_cons] at rest ⊢
    rw [rest]
    simp [behind]

theorem behind_stops (segments : List UInt16) {rest : Text} (stops : Stops 16 rest) (no_dot : rest.head? ≠ some '.') :
    Stops 16 (behind segments ++ rest) ∧ (behind segments ++ rest).head? ≠ some '.' := by
  cases segments with
  | nil => exact ⟨stops, no_dot⟩
  | cons segment segments => exact ⟨stops_colon _, colon_no_dot _⟩

/-- Groups are read back, up to what ends them or until there is no room left. -/
theorem read_groups_behind {segments : List UInt16} {left i : Nat} (next : 0 < i) (room : segments.length ≤ left)
    {rest : Text} (stops : Stops 16 rest) (no_dot : rest.head? ≠ some '.')
    (over_there : segments.length = left ∨ Bare (i + segments.length) rest) :
    read_groups left i (behind segments ++ rest) = (segments, false, rest) := by
  induction segments generalizing left i with
  | nil =>
    rcases over_there with full | bare
    · obtain rfl : left = 0 := full.symm
      rfl
    · exact bare.read_groups left
  | cons segment segments ih =>
    obtain ⟨left, rfl⟩ : ∃ n, left = n + 1 := ⟨left - 1, by simp only [List.length_cons] at room; omega⟩
    have here := behind_stops segments stops no_dot
    have text : behind (segment :: segments) ++ rest = separated i (hex segment.toNat ++ (behind segments ++ rest)) := by
      simp [behind, separated, next]
    simp only [List.length_cons, Nat.add_le_add_iff_right, Nat.add_right_cancel_iff] at room over_there
    have moved : i + 1 + segments.length = i + (segments.length + 1) := by omega
    rw [text, read_groups_group left i segment here.1 here.2, ih (Nat.succ_pos i) room (by rwa [moved])]

theorem read_groups_segments (segments : List UInt16) {left : Nat} (room : segments.length ≤ left) {rest : Text}
    (stops : Stops 16 rest) (no_dot : rest.head? ≠ some '.')
    (over_there : segments.length = left ∨ Bare segments.length rest) :
    read_groups left 0 (segments_text segments ++ rest) = (segments, false, rest) := by
  cases segments with
  | nil =>
    rcases over_there with full | bare
    · obtain rfl : left = 0 := full.symm
      rfl
    · exact bare.read_groups left
  | cons segment segments =>
    obtain ⟨left, rfl⟩ : ∃ n, left = n + 1 := ⟨left - 1, by simp only [List.length_cons] at room; omega⟩
    have here := behind_stops segments stops no_dot
    simp only [List.length_cons, Nat.add_le_add_iff_right, Nat.add_right_cancel_iff] at room over_there
    have first := read_groups_group left 0 segment here.1 here.2
    rw [segments_text_cons, List.append_assoc]
    exact first.trans (by rw [read_groups_behind (Nat.succ_pos 0) room stops no_dot (by rwa [Nat.add_comm])])

/-! ### The run of zeros -/

/-- The segments of the span are there, and zeros. -/
structure Zeros (segments : List UInt16) (span : Nat × Nat) : Prop where
  within : span.1 + span.2 ≤ segments.length
  zero : ∀ i, span.1 ≤ i → i < span.1 + span.2 → segments[i]? = some 0

theorem zeros_none (segments : List UInt16) : Zeros segments (0, 0) := ⟨Nat.zero_le _, fun i _ => by omega⟩

/-- The span that ends at a zero goes on with it. -/
theorem Zeros.longer {segments : List UInt16} {start len : Nat} (zeros : Zeros segments (start, len))
    (here : segments[start + len]? = some 0) : Zeros segments (start, len + 1) where
  within := (List.getElem?_eq_some_iff.mp here).1
  zero := by
    intro i behind before
    rcases Nat.lt_succ_iff_lt_or_eq.mp before with inside | last
    · exact zeros.zero i behind inside
    · rw [last]
      exact here

/-- The longest run is one: what the loop preserves is that both spans are, and
    that the current one has come to where it stands. -/
theorem zero_spans_zeros {segments seen left : List UInt16} (split : segments = seen ++ left) {current longest : Nat × Nat}
    (running : Zeros segments current) (reaches : 0 < current.2 → current.1 + current.2 = seen.length)
    (found : Zeros segments longest) : Zeros segments (zero_spans seen.length left current longest) := by
  induction left generalizing seen current longest with
  | nil => exact found
  | cons segment left ih =>
    obtain ⟨start, len⟩ := current
    have goes_on : segments = (seen ++ [segment]) ++ left := by rw [split, List.append_assoc]; rfl
    have length : (seen ++ [segment]).length = seen.length + 1 := List.length_append
    have here : segments[seen.length]? = some segment := by simp [split]
    rw [zero_spans, ← length]
    by_cases zero : segment = 0
    · rw [if_pos zero]
      rw [zero] at here
      dsimp only
      by_cases first : len = 0
      · rw [if_pos first]
        have begun : Zeros segments (seen.length, 1) :=
          @Zeros.longer segments seen.length 0 ⟨(List.getElem?_eq_some_iff.mp here).1.le, fun i _ => by omega⟩ here
        refine ih goes_on begun (fun _ => length.symm) ?_
        split_ifs <;> assumption
      · rw [if_neg first]
        have reached : start + len = seen.length := reaches (Nat.pos_of_ne_zero first)
        have further : Zeros segments (start, len + 1) := running.longer (by rw [reached]; exact here)
        refine ih goes_on further (fun _ => ?_) ?_
        · rw [length, ← reached]
          rfl
        · split_ifs <;> assumption
    · rw [if_neg zero]
      exact ih goes_on (zeros_none segments) (fun positive => absurd positive (Nat.lt_irrefl 0)) found

/-- Leaving the run out loses nothing. -/
theorem spread_zeros {segments : Vector UInt16 8} {start len : Nat} (zeros : Zeros segments.toList (start, len)) :
    spread (segments.toList.take start) (segments.toList.drop (start + len)) = segments := by
  have length : segments.toList.length = 8 := Vector.length_toList
  have within : start + len ≤ 8 := length ▸ zeros.within
  have at_index (i : Nat) (below : i < 8) : segments.toList[i]? = some segments[i] := by simp [below]
  ext i below
  rw [spread, Vector.getElem_ofFn, List.length_drop, length]
  dsimp only
  congr 1
  by_cases front : i < 8 - (8 - (start + len))
  · rw [if_pos front, List.getD_eq_getElem?_getD]
    by_cases head : i < start
    · rw [List.getElem?_take_of_lt head, at_index i below, Option.getD_some]
    · have zero := zeros.zero i (Nat.le_of_not_lt head) (by omega)
      rw [at_index i below, Option.some.injEq] at zero
      rw [zero, List.getElem?_eq_none (by rw [List.length_take]; omega), Option.getD_none]
  · rw [if_neg front, List.getD_eq_getElem?_getD, List.getElem?_drop,
      show start + len + (i - (8 - (8 - (start + len)))) = i by omega, at_index i below, Option.getD_some]

/-! ### Addresses -/

theorem high_low (segment : UInt16) :
    UInt16.ofNat ((high segment).toNat * 256 + (low segment).toNat) = segment := by
  have below := segment.toNat_lt
  rw [high, low, UInt8.toNat_ofNat_of_lt' (by simp only [UInt8.size]; omega),
    UInt8.toNat_ofNat_of_lt' (by simp only [UInt8.size]; omega), Nat.div_add_mod', UInt16.ofNat_toNat]

theorem read_groups_ipv4 {left : Nat} (room : 0 < left) (i : Nat) (a b c d : UInt8) {rest : Text} (stops : Stops 10 rest) :
    read_groups (left + 1) i (separated i (ipv4_text a b c d ++ rest)) =
      ([.ofNat (a.toNat * 256 + b.toNat), .ofNat (c.toNat * 256 + d.toNat)], true, rest) := by
  rw [Net.read_groups, if_pos room, read_separator_separated, read_ipv4_text a b c d stops]

/-- An address whose groups end at two colons, with groups or a dotted address
    behind them. -/
theorem read_ipv6_around {head tail : List UInt16} (short : head.length < 8) {behind rest : Text} {dotted : Bool}
    (tail_read : read_groups (7 - head.length) 0 behind = (tail, dotted, rest)) :
    read_ipv6_addr (segments_text head ++ (':' :: ':' :: behind)) = some (spread head tail, rest) := by
  have head_read : read_groups 8 0 (segments_text head ++ (':' :: ':' :: behind)) =
      (head, false, ':' :: ':' :: behind) :=
    read_groups_segments head (Nat.le_of_lt short) (stops_colon _) (colon_no_dot _) (Or.inr (bare_colons _ _))
  rw [read_ipv6_addr, head_read]
  dsimp only
  rw [if_neg (Nat.ne_of_lt short), if_neg Bool.false_ne_true]
  simp only [read_given_char, if_true, Option.bind_eq_bind, Option.bind_some, tail_read, Option.pure_def]

theorem read_ipv6_text (segments : Vector UInt16 8) {rest : Text} (ends : Ends rest) :
    read_ipv6_addr (ipv6_text segments.toList ++ rest) = some (segments, rest) := by
  have length : segments.toList.length = 8 := Vector.length_toList
  unfold ipv6_text
  split
  · rename_i ab cd mapped
    have text : lit "::ffff:" ++ ipv4_text (high ab) (low ab) (high cd) (low cd) ++ rest =
        segments_text [] ++ (':' :: ':' :: separated 0 (hex (0xffff : UInt16).toNat ++
          separated 1 (ipv4_text (high ab) (low ab) (high cd) (low cd) ++ rest))) := rfl
    have same : spread [] [0xffff, ab, cd] = segments := by
      rw [← Vector.toList_inj, mapped]
      rfl
    have dotted := read_groups_ipv4 (show 0 < 5 by decide) 1 (high ab) (low ab) (high cd) (low cd) ends.stops.decimal
    have tail := @read_groups_group 6 0 0xffff
      (separated 1 (ipv4_text (high ab) (low ab) (high cd) (low cd) ++ rest)) (stops_colon _) (colon_no_dot _)
    rw [dotted, high_low, high_low] at tail
    rw [text, ← same]
    exact read_ipv6_around (by decide) tail
  · have zeros : Zeros segments.toList (zero_spans 0 segments.toList (0, 0) (0, 0)) :=
      zero_spans_zeros (show segments.toList = [] ++ segments.toList from rfl) (zeros_none _)
        (fun positive => absurd positive (Nat.lt_irrefl 0)) (zeros_none _)
    generalize zero_spans 0 segments.toList (0, 0) (0, 0) = span at zeros ⊢
    obtain ⟨start, len⟩ := span
    have within : start + len ≤ 8 := length ▸ zeros.within
    dsimp only
    split_ifs with run
    · have head : (segments.toList.take start).length = start := by rw [List.length_take]; omega
      have tail : (segments.toList.drop (start + len)).length = 8 - (start + len) := by rw [List.length_drop, length]
      have room : (segments.toList.drop (start + len)).length ≤ 7 - (segments.toList.take start).length := by omega
      have read := read_groups_segments _ room ends.stops ends.no_dot (Or.inr (ends.bare _))
      have around := read_ipv6_around (by omega) read
      rw [spread_zeros zeros] at around
      rw [List.append_assoc, List.append_assoc]
      exact around
    · have read := read_groups_segments segments.toList length.le ends.stops ends.no_dot (Or.inl length)
      have whole : spread segments.toList [] = segments := by
        have none_out := @spread_zeros segments 8 0 ⟨length.ge, fun i _ => by omega⟩
        rwa [List.take_of_length_le length.le, List.drop_of_length_le length.le] at none_out
      rw [read_ipv6_addr, read]
      dsimp only
      rw [if_pos length, whole]

/-- No dot stands in front of the first colon. -/
def Colon (text : Text) : Prop := ∃ digits behind, '.' ∉ digits ∧ text = digits ++ ':' :: behind

theorem colon_segments (segments : List UInt16) (rest : Text) : Colon (segments_text segments ++ ':' :: rest) := by
  cases segments with
  | nil => exact ⟨[], rest, List.not_mem_nil, rfl⟩
  | cons segment segments =>
    rw [segments_text_cons, List.append_assoc]
    cases segments with
    | nil => exact ⟨_, rest, hex_no_dot segment, rfl⟩
    | cons next segments => exact ⟨_, _, hex_no_dot segment, rfl⟩

theorem colon_ipv6_text (segments : Vector UInt16 8) (rest : Text) : Colon (ipv6_text segments.toList ++ rest) := by
  have length : segments.toList.length = 8 := Vector.length_toList
  unfold ipv6_text
  split
  · exact ⟨[], _, List.not_mem_nil, rfl⟩
  · dsimp only
    split_ifs
    · rw [List.append_assoc, List.append_assoc]
      exact colon_segments _ _
    · match segments.toList, length with
      | segment :: next :: segments, _ =>
        rw [segments_text_cons, List.append_assoc]
        exact ⟨_, _, hex_no_dot segment, rfl⟩

/-- An IPv6 address does not begin like an IPv4 address. -/
theorem read_ipv4_colon {text : Text} (colon : Colon text) : read_ipv4_addr text = none := by
  obtain ⟨digits, behind, plain, rfl⟩ := colon
  exact read_ipv4_plain plain (stops_colon _).decimal (colon_no_dot _)

theorem read_ip_text (ip : IpAddr) {rest : Text} (ends : Ends rest) : read_ip_addr (ip.text ++ rest) = some (ip, rest) := by
  cases ip with
  | v4 a b c d => rw [read_ip_addr, IpAddr.text, read_ipv4_text a b c d ends.stops.decimal]
  | v6 segments =>
    rw [read_ip_addr, IpAddr.text, read_ipv4_colon (colon_ipv6_text segments rest), read_ipv6_text segments ends]
    rfl

/-- Every address is read back from its text. -/
theorem parse_ip_text (ip : IpAddr) : parse_ip ip.text = some ip := by
  have read := read_ip_text ip ends_nil
  rw [List.append_nil] at read
  rw [parse_ip, read]

/-! ### Socket addresses -/

/-- Only IPv6 addresses have a scope. -/
def SocketAddr.Scoped (addr : SocketAddr) : Prop := addr.ip.is_ipv4 = true → addr.scope_id = 0

instance (addr : SocketAddr) : Decidable addr.Scoped := inferInstanceAs (Decidable (_ → _))

theorem read_whole_number_written {n bound : Nat} (below : n < bound) {rest : Text} (stops : Stops 10 rest) :
    read_whole_number 10 bound (decimal n ++ rest) = some (n, rest) :=
  read_number_written (by decide) (by decide) (by rw [List.length_append]; exact Nat.le_add_right ..) below stops

theorem read_port_text (port : UInt16) : read_port (':' :: decimal port.toNat) = some (port, []) := by
  have read := @read_whole_number_written port.toNat 65536 port.toNat_lt [] stops_nil
  rw [List.append_nil] at read
  simp only [read_port, read_given_char, if_true, Option.bind_eq_bind, Option.bind_some, read, Option.pure_def,
    UInt16.ofNat_toNat]

theorem read_scope_id_text (scope_id : UInt32) {rest : Text} (stops : Stops 10 rest) :
    read_scope_id ('%' :: decimal scope_id.toNat ++ rest) = some (scope_id, rest) := by
  have read := @read_whole_number_written scope_id.toNat 4294967296 scope_id.toNat_lt rest stops
  simp only [read_scope_id, List.cons_append, read_given_char, if_true, Option.bind_eq_bind, Option.bind_some, read,
    Option.pure_def, UInt32.ofNat_toNat]

theorem read_socket_addr_v6_around (segments : Vector UInt16 8) (port : UInt16) {scope : Text} {scope_id : UInt32}
    (ends : Ends (scope ++ ']' :: ':' :: decimal port.toNat))
    (scope_read : (read_scope_id (scope ++ ']' :: ':' :: decimal port.toNat)).getD
        (0, scope ++ ']' :: ':' :: decimal port.toNat) = (scope_id, ']' :: ':' :: decimal port.toNat)) :
    read_socket_addr_v6 ('[' :: (ipv6_text segments.toList ++ (scope ++ ']' :: ':' :: decimal port.toNat))) =
      some (⟨.v6 segments, port, scope_id⟩, []) := by
  simp only [read_socket_addr_v6, read_given_char, if_true, read_ipv6_text segments ends, scope_read, read_port_text,
    Option.bind_eq_bind, Option.bind_some, Option.pure_def]

theorem read_socket_addr_v6_text (segments : Vector UInt16 8) (port : UInt16) (scope_id : UInt32) :
    read_socket_addr_v6 (SocketAddr.text ⟨.v6 segments, port, scope_id⟩) = some (⟨.v6 segments, port, scope_id⟩, []) := by
  have text : SocketAddr.text ⟨.v6 segments, port, scope_id⟩ = '[' :: (ipv6_text segments.toList ++
      ((if scope_id = 0 then [] else '%' :: decimal scope_id.toNat) ++ ']' :: ':' :: decimal port.toNat)) := by
    simp [SocketAddr.text, IpAddr.text, lit]
  rw [text]
  split_ifs with none_given
  · rw [none_given]
    exact read_socket_addr_v6_around segments port (ends_cons (by decide) (by decide) (by decide) _) rfl
  · refine read_socket_addr_v6_around segments port (ends_cons (by decide) (by decide) (by decide) _) ?_
    rw [read_scope_id_text scope_id (stops_cons.mpr (by decide))]
    rfl

/-- Every socket address is read back from its text. -/
theorem parse_socket_addr_text {addr : SocketAddr} (in_scope : addr.Scoped) : parse_socket_addr addr.text = some addr := by
  obtain ⟨ip, port, scope_id⟩ := addr
  cases ip with
  | v4 a b c d =>
    obtain rfl : scope_id = 0 := in_scope rfl
    have ip := @read_ipv4_text a b c d (':' :: decimal port.toNat) (stops_cons.mpr (by decide))
    have read : read_socket_addr_v4 (SocketAddr.text ⟨.v4 a b c d, port, 0⟩) = some (⟨.v4 a b c d, port, 0⟩, []) := by
      simp only [read_socket_addr_v4, SocketAddr.text, IpAddr.text, ip, read_port_text, Option.bind_eq_bind,
        Option.bind_some, Option.pure_def]
    rw [parse_socket_addr, read_socket_addr, read]
  | v6 segments =>
    have stops (rest : Text) : Stops 10 ('[' :: rest) := stops_cons.mpr (by decide)
    have no_v4 (rest : Text) : read_socket_addr_v4 ('[' :: rest) = none := by
      rw [read_socket_addr_v4, read_ipv4_stops (stops rest) (by simp)]
      rfl
    have v6 := read_socket_addr_v6_text segments port scope_id
    obtain ⟨rest, text⟩ : ∃ rest, SocketAddr.text ⟨.v6 segments, port, scope_id⟩ = '[' :: rest := ⟨_, rfl⟩
    rw [text] at v6 ⊢
    rw [parse_socket_addr, read_socket_addr, no_v4, v6]

end SiphonHttp.Net

namespace SiphonHttp.Server
open Text Dispatch Routes Config Net Request

/-! ### Peers and proxies -/

/-- `Listener::address`: the local end of the connection. -/
def Listener.address (info : ConnectionInfo) : Option Text := info.local_addr.map SocketAddr.text

theorem executed_received {config : HttpConfig} {registered : List Registered} {stages : List Stage}
    {admission : Option Admission} {surroundings : Surroundings} {request : HttpRequest} {run : Ran}
    (member : run ∈ ((spawn_with config registered stages admission).serve surroundings request).ran) :
    run.request.peer = (request.peer.map SocketAddr.text).getD (lit "unknown:0") ∧
      run.request.client = client_addr (all_trusted config) request.peer request.headers ∧
      run.request.connection = request.connection := by
  obtain ⟨template, -, cap, -, -, dispatched⟩ := executed_under member
  obtain ⟨octets, -, received⟩ := mem_dispatch dispatched
  rw [received]
  exact ⟨rfl, rfl, rfl⟩

/-- A script reads both ends of the connection off its request, and that it has
    no peer. -/
theorem ends_read_back (config : HttpConfig) (registered : List Registered) (stages : List Stage)
    (admission : Option Admission) (surroundings : Surroundings) (request : HttpRequest)
    (peer_in_scope : ∀ peer ∈ request.peer, peer.Scoped)
    (local_in_scope : ∀ info ∈ request.connection, ∀ addr ∈ info.local_addr, addr.Scoped) :
    ∀ run ∈ ((spawn_with config registered stages admission).serve surroundings request).ran,
      parse_socket_addr run.request.peer = request.peer ∧
        ∀ info ∈ run.request.connection, (Listener.address info).bind parse_socket_addr = info.local_addr := by
  intro run member
  obtain ⟨peer, -, connection⟩ := executed_received member
  rw [peer, connection]
  refine ⟨?_, fun info here => ?_⟩
  · cases given : request.peer with
    | none => decide +kernel
    | some peer => exact parse_socket_addr_text (peer_in_scope peer given)
  · cases given : info.local_addr with
    | none => rw [Listener.address, given, Option.map_none, Option.bind_none]
    | some addr =>
      rw [Listener.address, given, Option.map_some, Option.bind_some,
        parse_socket_addr_text (local_in_scope info here addr given)]

/-! A peer on the link. -/

def linked : HttpRequest :=
  { uploading ⟨none, []⟩ with
    peer := some ⟨.v6 #v[0xfe80, 0, 0, 0, 0, 0, 0, 1], 4000, 3⟩
    connection := some ⟨⟨lit "192.0.2.1:8080", false⟩, some ⟨.v4 192 0 2 1, 8080, 0⟩⟩ }

theorem linked_reads_back :
    ∃ run ∈ ((spawn_with cappedAtEight upload [] none).serve calm linked).ran,
      parse_socket_addr run.request.peer = some ⟨.v6 #v[0xfe80, 0, 0, 0, 0, 0, 0, 1], 4000, 3⟩ := by
  have executed : ((spawn_with cappedAtEight upload [] none).serve calm linked).ran ≠ [] := by decide +kernel
  obtain ⟨run, member⟩ := List.exists_mem_of_ne_nil _ executed
  refine ⟨run, member, (ends_read_back cappedAtEight upload [] none calm linked ?_ ?_ run member).1⟩
  · intro peer given
    obtain rfl := Option.some.inj given
    decide
  · intro info here addr given
    obtain rfl := Option.some.inj here
    obtain rfl := Option.some.inj given
    decide

/-- All entries of `trusted_proxies`. -/
def proxy_entries (config : HttpConfig) : List Text := config.servers.flatMap (·.trusted_proxies)

/-- An entry that is no address, or written as addresses are. -/
def Written (entry : Text) : Prop := ∀ ip ∈ parse_ip entry, entry = ip.text

theorem trusted_of_text {config : HttpConfig} {ip : IpAddr} (listed : ip.text ∈ proxy_entries config) :
    ip ∈ all_trusted config :=
  List.mem_filterMap.mpr ⟨ip.text, listed, parse_ip_text ip⟩

theorem text_of_trusted {config : HttpConfig} {ip : IpAddr} (written : ∀ entry ∈ proxy_entries config, Written entry)
    (trusted : ip ∈ all_trusted config) : ip.text ∈ proxy_entries config := by
  obtain ⟨entry, listed, parsed⟩ := List.mem_filterMap.mp trusted
  rw [← written entry listed ip parsed]
  exact listed

/-- A peer that is listed as its text is trusted to tell the client; where all
    entries are written as addresses are, no other is. -/
theorem trusted_as_written (config : HttpConfig) (registered : List Registered) (stages : List Stage)
    (admission : Option Admission) (surroundings : Surroundings) (request : HttpRequest) {peer : SocketAddr}
    (from_peer : request.peer = some peer) :
    ∀ run ∈ ((spawn_with config registered stages admission).serve surroundings request).ran,
      (peer.ip.text ∈ proxy_entries config →
        run.request.client = (forwarded_for request.headers).getD peer.text) ∧
      (peer.ip.text ∉ proxy_entries config → (∀ entry ∈ proxy_entries config, Written entry) →
        run.request.client = peer.text) := by
  intro run member
  rw [(executed_received member).2.1, from_peer]
  refine ⟨fun listed => ?_, fun unlisted written => ?_⟩
  · rw [client_addr, if_pos (trusted_of_text listed)]
    cases forwarded_for request.headers <;> rfl
  · exact client_addr_untrusted (fun trusted => unlisted (text_of_trusted written trusted)) _

/-! An IPv6 socket knows the proxy `10.0.0.1` by another address, which an entry of
this text does not mean. -/

def behindProxy : HttpConfig where
  servers := [⟨lit "[::]:8080", none, none, 8, 30000, [lit "10.0.0.1"]⟩]

def mapped : HttpRequest :=
  { uploading ⟨none, []⟩ with
    headers := [(lit "x-forwarded-for", utf8 (lit "203.0.113.9"))]
    peer := some ⟨.v6 #v[0, 0, 0, 0, 0, 0xffff, 0x0a00, 1], 4000, 0⟩ }

theorem mapped_untrusted :
    ∃ run ∈ ((spawn_with behindProxy upload [] none).serve calm mapped).ran,
      run.request.client = lit "[::ffff:10.0.0.1]:4000" := by
  have executed : ((spawn_with behindProxy upload [] none).serve calm mapped).ran ≠ [] := by decide +kernel
  obtain ⟨run, member⟩ := List.exists_mem_of_ne_nil _ executed
  have client := trusted_as_written behindProxy upload [] none calm mapped rfl run member
  refine ⟨run, member, (client.2 (by decide +kernel) ?_).trans (by decide +kernel)⟩
  intro entry listed ip parsed
  obtain rfl := List.mem_singleton.mp listed
  have read : parse_ip (lit "10.0.0.1") = some (.v4 10 0 0 1) := by decide +kernel
  obtain rfl := Option.some.inj (read.symm.trans parsed)
  decide +kernel

end SiphonHttp.Server
