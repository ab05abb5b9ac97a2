import SiphonHttp.Listening
import SiphonHttp.Parse
import SiphonHttp.Request

/-!
What a listener marks its packets with. A document says it as a number or as a
name, of which there are two families with digits in them and four single ones;
what is accepted is a codepoint of six bits, and the octet that the socket is
given has it above the two bits of ECN (`every_mark_documented`).
-/
namespace SiphonHttp.Config
open Text Request Parse

/-! ### Reading -/

structure Dscp where
  codepoint : UInt8
  deriving DecidableEq, Repr

/-- `strip_prefix`. -/
def strip_prefix (start text : Text) : Option Text := if starts_with start text then some (text.drop start.length) else none

def Dscp.named (name : Text) : Option Dscp :=
  let name := to_ascii_lowercase name
  if name = lit "df" ∨ name = lit "default" then some ⟨0⟩
  else if name = lit "le" then some ⟨1⟩
  else if name = lit "ef" then some ⟨46⟩
  else if name = lit "va" then some ⟨44⟩
  else
    match ( strip_prefix (lit "cs") name).orElse fun _ => strip_prefix (lit "af") name with
    | none => none
    | some digits =>
      -- `wrapping_sub`, on the octets.
      match starts_with (lit "cs") name, (utf8 digits).map fun octet => octet - 48 with
      | true, [level] => if level ≤ 7 then some ⟨level * 8⟩ else none
      | false, [level, drop] =>
        if (1 ≤ level ∧ level ≤ 4) ∧ (1 ≤ drop ∧ drop ≤ 3) then some ⟨level * 8 + drop * 2⟩ else none
      | _, _ => none

/-- `dscp` in a document. -/
inductive Given
  | Number (value : UInt8)
  | Name (name : Text)

inductive DscpError
  /-- `dscp {value} is not a six-bit codepoint (0 to 63)` -/
  | NotSixBits (value : UInt8)
  /-- `dscp {name:?} is no codepoint name` -/
  | NoName (name : Text)
  deriving DecidableEq

def Dscp.deserialize : Given → Except DscpError Dscp
  | .Number value => if value ≤ 63 then .ok ⟨value⟩ else .error (.NotSixBits value)
  | .Name name =>
    match Dscp.named name with
    | some dscp => .ok dscp
    | none => .error (.NoName name)

/-! ### The codepoints -/

/-- Codepoints that have a name. -/
inductive Codepoint
  | df
  | le
  | class_selector (level : Fin 8)
  /-- Classes and drop precedences count from one. -/
  | assured (level : Fin 4) (drop : Fin 3)
  | voice
  | expedited
  deriving DecidableEq

namespace Codepoint

def value : Codepoint → UInt8
  | df => 0
  | le => 1
  | class_selector level => 8 * .ofNat level
  | assured level drop => 8 * .ofNat (level + 1) + 2 * .ofNat (drop + 1)
  | voice => 44
  | expedited => 46

def spellings : Codepoint → List Text
  | df => [lit "df", lit "default"]
  | le => [lit "le"]
  | class_selector level => [lit "cs" ++ decimal level]
  | assured level drop => [lit "af" ++ decimal (level + 1) ++ decimal (drop + 1)]
  | voice => [lit "va"]
  | expedited => [lit "ef"]

theorem value_six_bits (codepoint : Codepoint) : codepoint.value ≤ 63 := by
  cases codepoint with
  | class_selector level => revert level; decide
  | assured level drop => revert level drop; decide
  | df | le | voice | expedited => decide

end Codepoint

/-! ### Names -/

theorem strip_prefix_eq_some {start text rest : Text} : strip_prefix start text = some rest ↔ text = start ++ rest := by
  unfold strip_prefix
  constructor
  · intro stripped
    split_ifs at stripped with starts
    obtain ⟨behind, rfl⟩ := List.isPrefixOf_iff_prefix.mp starts
    rw [List.drop_left] at stripped
    rw [Option.some.inj stripped]
  · rintro rfl
    have starts : starts_with start (start ++ rest) = true :=
      List.isPrefixOf_iff_prefix.mpr (List.prefix_append start rest)
    rw [if_pos starts, List.drop_left]

/-- What is read as one digit is one. -/
theorem one_digit {digits : Text} {level : UInt8} (read : (utf8 digits).map (fun octet => octet - 48) = [level])
    (small : level ≤ 7) : ∃ n : Fin 8, digits = decimal n ∧ level = .ofNat n := by
  have written : ∀ n : Fin 8, utf8 (decimal n) = [.ofNat n + 48] := by decide
  obtain ⟨octet, single, rfl⟩ := List.map_eq_singleton_iff.mp read
  have below : (octet - 48).toNat < 8 := Nat.lt_succ_of_le (UInt8.le_iff_toNat_le.mp small)
  refine ⟨⟨_, below⟩, utf8_injective ?_, by simp⟩
  rw [single, written]
  simp

/-- A number from one to `most`, counted from zero. -/
theorem from_one (most : Nat) {octet : UInt8} (low : 1 ≤ octet) (high : octet.toNat ≤ most) :
    ∃ n : Fin most, octet = .ofNat (n + 1) := by
  have positive : 1 ≤ octet.toNat := UInt8.le_iff_toNat_le.mp low
  refine ⟨⟨octet.toNat - 1, by omega⟩, ?_⟩
  rw [Nat.sub_add_cancel positive, UInt8.ofNat_toNat]

theorem two_digits {digits : Text} {level drop : UInt8}
    (read : (utf8 digits).map (fun octet => octet - 48) = [level, drop]) (level_small : 1 ≤ level ∧ level ≤ 4)
    (drop_small : 1 ≤ drop ∧ drop ≤ 3) :
    ∃ (n : Fin 4) (m : Fin 3), digits = decimal (n + 1) ++ decimal (m + 1) ∧ level = .ofNat (n + 1) ∧
      drop = .ofNat (m + 1) := by
  have written : ∀ (n : Fin 4) (m : Fin 3),
      utf8 (decimal (n + 1) ++ decimal (m + 1)) = [.ofNat (n + 1) + 48, .ofNat (m + 1) + 48] := by decide
  obtain ⟨first, rest, pair, rfl, behind⟩ := List.map_eq_cons_iff.mp read
  obtain ⟨second, rfl, rfl⟩ := List.map_eq_singleton_iff.mp behind
  obtain ⟨n, level_same⟩ := from_one 4 level_small.1 (UInt8.le_iff_toNat_le.mp level_small.2)
  obtain ⟨m, drop_same⟩ := from_one 3 drop_small.1 (UInt8.le_iff_toNat_le.mp drop_small.2)
  refine ⟨n, m, utf8_injective ?_, level_same, drop_same⟩
  rw [pair, written, ← level_same, ← drop_same, UInt8.sub_add_cancel, UInt8.sub_add_cancel]

/-- A name is read exactly where it spells a codepoint, and then as its value. -/
theorem named_iff {name : Text} {dscp : Dscp} :
    Dscp.named name = some dscp ↔
      ∃ codepoint : Codepoint, to_ascii_lowercase name ∈ codepoint.spellings ∧ dscp.codepoint = codepoint.value := by
  unfold Dscp.named
  generalize to_ascii_lowercase name = lower
  constructor
  · intro read
    dsimp only at read
    split_ifs at read with default lower_effort expedited admitted
    · cases read
      refine ⟨.df, ?_, rfl⟩
      rcases default with rfl | rfl
      · decide
      · decide
    · cases read
      exact ⟨.le, List.mem_singleton.mpr lower_effort, rfl⟩
    · cases read
      exact ⟨.expedited, List.mem_singleton.mpr expedited, rfl⟩
    · cases read
      exact ⟨.voice, List.mem_singleton.mpr admitted, rfl⟩
    · cases selector : strip_prefix (lit "cs") lower with
      | some digits =>
        obtain rfl := strip_prefix_eq_some.mp selector
        have starts : starts_with (lit "cs") (lit "cs" ++ digits) = true :=
          List.isPrefixOf_iff_prefix.mpr (List.prefix_append _ digits)
        rw [selector, starts] at read
        dsimp only [Option.orElse_some] at read
        split at read
        · rename_i level one
          split_ifs at read with small
          cases read
          obtain ⟨n, rfl, rfl⟩ := one_digit one small
          exact ⟨.class_selector n, List.mem_singleton_self _, UInt8.mul_comm ..⟩
        · rename_i impossible _
          cases impossible
        · cases read
      | none =>
        have no_start : starts_with (lit "cs") lower = false := by
          unfold strip_prefix at selector
          split_ifs at selector with starts
          exact Bool.eq_false_iff.mpr starts
        rw [selector, no_start] at read
        dsimp only [Option.orElse_none] at read
        split at read
        · cases read
        · rename_i digits assured
          obtain rfl := strip_prefix_eq_some.mp assured
          split at read
          · rename_i impossible _
            cases impossible
          · rename_i level drop _ two
            split_ifs at read with small
            cases read
            obtain ⟨n, m, rfl, rfl, rfl⟩ := two_digits two small.1 small.2
            refine ⟨.assured n m, List.mem_singleton_self _, ?_⟩
            rw [Codepoint.value, UInt8.mul_comm 8, UInt8.mul_comm 2]
          · cases read
  · rintro ⟨codepoint, spelled, value⟩
    obtain ⟨codepoint'⟩ := dscp
    obtain rfl : codepoint' = codepoint.value := value
    cases codepoint with
    | class_selector level =>
      obtain rfl := List.mem_singleton.mp spelled
      revert level
      decide
    | assured level drop =>
      obtain rfl := List.mem_singleton.mp spelled
      revert level drop
      decide
    | df =>
      rcases List.mem_pair.mp spelled with rfl | rfl
      · decide
      · decide
    | le | voice | expedited =>
      obtain rfl := List.mem_singleton.mp spelled
      decide

/-! ### Marks -/

/-- What is given says the codepoint: as a number of six bits, or by a name. -/
def Given.Means : Given → UInt8 → Prop
  | .Number value, codepoint => value ≤ 63 ∧ codepoint = value
  | .Name name, codepoint =>
    ∃ named : Codepoint, to_ascii_lowercase name ∈ named.spellings ∧ codepoint = named.value

theorem Given.Means.six_bits {given : Given} {codepoint : UInt8} (means : given.Means codepoint) : codepoint ≤ 63 := by
  cases given with
  | Number value =>
    obtain ⟨small, rfl⟩ := means
    exact small
  | Name name =>
    obtain ⟨named, -, rfl⟩ := means
    exact named.value_six_bits

theorem deserialize_iff {given : Given} {dscp : Dscp} :
    Dscp.deserialize given = .ok dscp ↔ given.Means dscp.codepoint := by
  cases given with
  | Number value =>
    obtain ⟨codepoint⟩ := dscp
    by_cases small : value ≤ 63
    · simp [Dscp.deserialize, Given.Means, small, eq_comm]
    · simp [Dscp.deserialize, Given.Means, small]
  | Name name =>
    rw [Given.Means, ← named_iff]
    cases read : Dscp.named name with
    | none => simp [Dscp.deserialize, read]
    | some named => simp [Dscp.deserialize, read]

/-- What a document gives as `dscp` is accepted exactly as what it says; and the
    octet that an IPv4 socket is then given has the codepoint above two bits that
    are zero. -/
theorem every_mark_documented (given : Given) (dscp : Dscp) :
    (Dscp.deserialize given = .ok dscp ↔ given.Means dscp.codepoint) ∧
      (Dscp.deserialize given = .ok dscp →
        ∀ (system : Listening.System) (server : Startup.ServerEntry) (addr : Net.SocketAddr),
          addr.ip.is_ipv4 = true → server.dscp = some dscp.codepoint.toNat →
            ∃ octet < 256, Listening.set_dscp system server addr = Listening.succeeds (system.tos_error octet) ∧
              octet / 4 = dscp.codepoint.toNat ∧ octet % 4 = 0) := by
  refine ⟨deserialize_iff, fun read system server addr ipv4 marked => ?_⟩
  have below : dscp.codepoint.toNat ≤ 63 :=
    UInt8.le_iff_toNat_le.mp (deserialize_iff.mp read : given.Means dscp.codepoint).six_bits
  have shifted : dscp.codepoint.toNat <<< 2 = dscp.codepoint.toNat * 4 := Nat.shiftLeft_eq ..
  refine ⟨dscp.codepoint.toNat <<< 2, by omega, ?_, by omega, by omega⟩
  rw [Listening.set_dscp, marked]
  exact if_pos ipv4

/-! `EF`, on an IPv4 listener. -/

theorem expedited_marks :
    ∃ octet < 256, Listening.set_dscp Listening.plainSystem
        ⟨⟨lit "192.0.2.1:8080", none, none, 1 <<< 20, 30000, []⟩, some 46⟩ ⟨.v4 192 0 2 1, 8080, 0⟩ =
          Listening.succeeds (Listening.plainSystem.tos_error octet) ∧ octet / 4 = 46 ∧ octet % 4 = 0 :=
  (every_mark_documented (.Name (lit "EF")) ⟨46⟩).2 (by decide) Listening.plainSystem _ _ rfl rfl

end SiphonHttp.Config
