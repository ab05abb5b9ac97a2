import SiphonHttp.Request

/-!
The client address behind a proxy. A proxy appends the address of its client to
the `X-Forwarded-For` list and forwards the rest; `client_addr` takes the first
element of the list, which is the one that the proxy appended only when the
client sent no list of its own (`client_of_forwarded`).
-/
namespace SiphonHttp.Request
open Text Net

/-! ### List fields -/

/-- Space and tab. -/
def ows (octet : UInt8) : Bool := octet = 0x20 || octet = 0x09

/-- An element without the white space around it. -/
def trimmed (element : Octets) : Octets := ((element.dropWhile ows).reverse.dropWhile ows).reverse

/-- The elements of a comma-separated field, over all of its lines. -/
def elements (lines : List Octets) : List Octets :=
  lines.flatMap fun line => (line.splitOn 0x2c).map trimmed

def xff : Text := lit "x-forwarded-for"

/-- What a proxy that appends `address` makes of the fields its client sent: the
    list of `X-Forwarded-For` with one more element, however it is laid out in
    lines, and every other field as it was. -/
structure Forwards (address : Text) (sent forwarded : HeaderMap) : Prop where
  others : forwarded.filter (·.1 ≠ xff) = sent.filter (·.1 ≠ xff)
  appended : elements (get_all forwarded xff) = elements (get_all sent xff) ++ [utf8 address]

/-- The text of an address: visible ASCII without a comma. -/
def Address (address : Text) : Prop := address ≠ [] ∧ ∀ c ∈ address, 33 ≤ c.toNat ∧ c.toNat < 127 ∧ c ≠ ','

instance (address : Text) : Decidable (Address address) :=
  @instDecidableAnd _ _ _ (@List.decidableBAll Char (fun c => 33 ≤ c.toNat ∧ c.toNat < 127 ∧ c ≠ ',') _ address)

/-- The first element of the list that is sent on: the first of the client's own,
    or the address where the client sent none. -/
def left_most (address : Text) (sent : HeaderMap) : Octets :=
  (elements (get_all sent xff)).headD (utf8 address)

/-- The first line of the list is visible ASCII, spaces and tabs. -/
def readable (headers : HeaderMap) : Bool := ((get_all headers xff).head?.bind to_str).isSome

theorem elements_nil : elements [] = [] := rfl

theorem elements_cons (line : Octets) (lines : List Octets) :
    elements (line :: lines) = (line.splitOn 0x2c).map trimmed ++ elements lines := rfl

theorem splitOn_head (line : Octets) : (line.splitOn 0x2c).head? = some (line.takeWhile (· ≠ 0x2c)) := by
  induction line with
  | nil => rfl
  | cons octet line ih =>
    rw [List.splitOn_cons_eq_if_modifyHead]
    by_cases comma : octet = 0x2c
    · subst comma
      rfl
    · have rest : (line.splitOn 0x2c).modifyHead (octet :: ·) =
          (octet :: line.takeWhile (· ≠ 0x2c)) :: (line.splitOn 0x2c).tail := by
        cases pieces : line.splitOn 0x2c with
        | nil => exact absurd pieces (List.splitOn_ne_nil _ _)
        | cons first others =>
          rw [pieces] at ih
          obtain rfl := Option.some.inj ih
          rfl
      rw [if_neg (by simpa using comma), rest, List.takeWhile_cons_of_pos (by simpa using comma)]
      rfl

theorem elements_append (lines others : List Octets) : elements (lines ++ others) = elements lines ++ elements others :=
  List.flatMap_append

/-- The first element of a field is that of its first line. -/
theorem elements_head (line : Octets) (lines : List Octets) :
    (elements (line :: lines)).head? = some (trimmed (line.takeWhile (· ≠ 0x2c))) := by
  rw [elements_cons, List.head?_append, List.head?_map, splitOn_head]
  rfl

/-! ### What `client_addr` reads -/

theorem get_eq_head (headers : HeaderMap) (name : Text) : headers.get name = (get_all headers name).head? := by
  induction headers with
  | nil => rfl
  | cons field headers ih =>
    obtain ⟨key, value⟩ := field
    rw [HeaderMap.get, List.lookup_cons]
    by_cases same : key = name
    · subst same
      simp [get_all]
    · have other : (name == key) = false := beq_false_of_ne (Ne.symm same)
      rw [other]
      simpa [get_all, same, HeaderMap.get] using ih

/-- White space of a readable value is spaces and tabs. -/
theorem is_whitespace_readable {octet : UInt8} (visible : (32 ≤ octet && octet < 127) || octet = 9) :
    is_whitespace (Char.ofNat octet.toNat) = ows octet := by
  revert octet
  decide +kernel

theorem dropWhile_latin1 {line : Octets} (readable : ∀ octet ∈ line, (32 ≤ octet && octet < 127) || octet = 9) :
    (latin1 line).dropWhile is_whitespace = latin1 (line.dropWhile ows) := by
  induction line with
  | nil => rfl
  | cons octet line ih =>
    have first := is_whitespace_readable (readable octet (List.mem_cons_self ..))
    have rest := ih fun other member => readable other (List.mem_cons_of_mem _ member)
    rw [latin1, List.map_cons, List.dropWhile_cons, List.dropWhile_cons, first]
    split_ifs
    · exact rest
    · rfl

theorem trim_latin1 {line : Octets} (readable : ∀ octet ∈ line, (32 ≤ octet && octet < 127) || octet = 9) :
    trim (latin1 line) = latin1 (trimmed line) := by
  have kept : ∀ octet ∈ (line.dropWhile ows).reverse, (32 ≤ octet && octet < 127) || octet = 9 := fun octet member =>
    readable octet ((List.dropWhile_suffix _).mem (List.mem_reverse.mp member))
  have back (octets : Octets) : (latin1 octets).reverse = latin1 octets.reverse := (List.map_reverse ..).symm
  rw [trim, dropWhile_latin1 readable, back, dropWhile_latin1 kept, back, trimmed]

theorem takeWhile_latin1 (line : Octets) : (latin1 line).takeWhile (· ≠ ',') = latin1 (line.takeWhile (· ≠ 0x2c)) := by
  induction line with
  | nil => rfl
  | cons octet line ih =>
    rw [latin1, List.map_cons]
    by_cases comma : octet = 0x2c
    · subst comma
      rfl
    · have other : Char.ofNat octet.toNat ≠ ',' := fun same => comma (octet_injective (b := 0x2c) same)
      rw [List.takeWhile_cons_of_pos (by simpa using other), List.takeWhile_cons_of_pos (by simpa using comma)]
      exact congrArg _ ih

/-- `client_addr` finds the first element of the list, unless the first line is
    not readable or that element is empty. -/
theorem forwarded_for_eq (headers : HeaderMap) :
    forwarded_for headers =
      if readable headers then ((elements (get_all headers xff)).head?.map latin1).filter (· ≠ []) else none := by
  rw [forwarded_for, show lit "x-forwarded-for" = xff from rfl, get_eq_head, readable]
  cases lines : get_all headers xff with
  | nil => rfl
  | cons line others =>
    rw [elements_head, List.head?_cons, Option.bind_some]
    cases text : to_str line with
    | none => rfl
    | some read =>
      rw [to_str] at text
      split_ifs at text with visible
      obtain rfl : latin1 line = read := Option.some.inj text
      have octets : ∀ octet ∈ line, (32 ≤ octet && octet < 127) || octet = 9 := List.all_eq_true.mp visible
      have first : ∀ octet ∈ line.takeWhile (· ≠ 0x2c), (32 ≤ octet && octet < 127) || octet = 9 :=
        fun octet member => octets octet ((List.takeWhile_prefix _).mem member)
      rw [Option.map_some, Option.map_some, takeWhile_latin1, trim_latin1 first]
      rfl

/-! ### Behind a proxy -/

theorem Address.ascii {address : Text} (plain : Address address) : Ascii address :=
  fun c member => by
    have := plain.2 c member
    omega

theorem Address.latin1_utf8 {address : Text} (plain : Address address) : latin1 (utf8 address) = address :=
  (Text.latin1_utf8 address).mpr plain.ascii

/-- Each octet of an address is visible, and none is a comma or white space. -/
theorem Address.octets {address : Text} (plain : Address address) {octet : UInt8} (member : octet ∈ utf8 address) :
    33 ≤ octet.toNat ∧ octet.toNat < 127 ∧ octet ≠ 0x2c := by
  have inside : Char.ofNat octet.toNat ∈ address := by
    rw [← plain.latin1_utf8]
    exact List.mem_map_of_mem member
  obtain ⟨least, most, comma⟩ := plain.2 _ inside
  rw [octet_toNat] at least most
  exact ⟨least, most, fun same => comma (by rw [same]; rfl)⟩

theorem not_ows {octet : UInt8} (visible : 33 ≤ octet.toNat) : ows octet = false := by
  simp only [ows, Bool.or_eq_false_iff, decide_eq_false_iff_not]
  constructor
  · rintro rfl
    exact absurd visible (by decide)
  · rintro rfl
    exact absurd visible (by decide)

theorem dropWhile_address {octets : Octets} (visible : ∀ octet ∈ octets, ows octet = false) :
    octets.dropWhile ows = octets := by
  cases octets with
  | nil => rfl
  | cons octet octets => rw [List.dropWhile_cons_of_neg (by rw [visible octet (List.mem_cons_self ..)]; decide)]

/-- An address is one element. -/
theorem Address.one_element {address : Text} (plain : Address address) :
    ((utf8 address).splitOn 0x2c).map trimmed = [utf8 address] := by
  have visible : ∀ octet ∈ utf8 address, ows octet = false := fun octet member => not_ows (plain.octets member).1
  have back : ∀ octet ∈ (utf8 address).reverse, ows octet = false := fun octet member =>
    visible octet (List.mem_reverse.mp member)
  rw [List.splitOn_eq_singleton fun member => (plain.octets member).2.2 rfl, List.map_singleton, trimmed,
    dropWhile_address visible, dropWhile_address back, List.reverse_reverse]

theorem get_all_append (headers others : HeaderMap) (name : Text) :
    get_all (headers ++ others) name = get_all headers name ++ get_all others name := by
  rw [get_all, List.filter_append, List.map_append]
  rfl

theorem get_all_line (value : Octets) : get_all [(xff, value)] xff = [value] := by
  simp [get_all]

/-- A proxy may send the address on in a line of its own. -/
theorem forwards_own_line {address : Text} (plain : Address address) (sent : HeaderMap) :
    Forwards address sent (sent ++ [(xff, utf8 address)]) where
  others := by
    rw [List.filter_append]
    exact List.append_nil _
  appended := by
    rw [get_all_append, elements_append, get_all_line, elements_cons, elements_nil, List.append_nil, plain.one_element]

/-- A proxy may make the last line longer. -/
theorem forwards_last_line {address : Text} (plain : Address address) (sent : HeaderMap) (last : Octets) :
    Forwards address (sent ++ [(xff, last)]) (sent ++ [(xff, last ++ [0x2c, 0x20] ++ utf8 address)]) where
  others := by
    rw [List.filter_append, List.filter_append]
    rfl
  appended := by
    have spaced : ((0x20 :: utf8 address).splitOn 0x2c).map trimmed = [utf8 address] := by
      rw [List.splitOn_cons_eq_if_modifyHead, if_neg (by decide), ← plain.one_element]
      cases (utf8 address).splitOn 0x2c <;> rfl
    have split : elements [last ++ [0x2c, 0x20] ++ utf8 address] = elements [last] ++ [utf8 address] := by
      rw [List.append_assoc, elements_cons, elements_cons, elements_nil, List.append_nil, List.append_nil, ← spaced,
        ← List.map_append]
      exact congrArg _ (List.splitOn_append_cons_self _ _)
    rw [get_all_append, get_all_append, elements_append, elements_append, get_all_line, get_all_line, split,
      ← List.append_assoc]

theorem forwards_head {address : Text} {sent forwarded : HeaderMap} (forwards : Forwards address sent forwarded) :
    (elements (get_all forwarded xff)).head? = some (left_most address sent) := by
  rw [forwards.appended, left_most]
  cases elements (get_all sent xff) <;> rfl

theorem mem_trimmed {line : Octets} {octet : UInt8} (member : octet ∈ line) : ows octet ∨ octet ∈ trimmed line := by
  have behind (octets : Octets) (inside : octet ∈ octets) : ows octet ∨ octet ∈ octets.dropWhile ows := by
    rw [← List.takeWhile_append_dropWhile (p := ows) (l := octets), List.mem_append] at inside
    exact inside.imp_left fun front => List.mem_takeWhile_imp front
  rcases behind line member with white | kept
  · exact Or.inl white
  · refine (behind _ (List.mem_reverse.mpr kept)).imp_right fun both => ?_
    rw [trimmed, List.mem_reverse]
    exact both

theorem ows_visible (octet : UInt8) (white : ows octet) : (32 ≤ octet && octet < 127) || octet = 9 := by
  revert octet
  decide +kernel

/-- Where the client sent no list, the one that is sent on is the address alone,
    which is readable. -/
theorem readable_alone {address : Text} {sent forwarded : HeaderMap} (plain : Address address)
    (forwards : Forwards address sent forwarded) (alone : get_all sent xff = []) : readable forwarded = true := by
  have single := forwards.appended
  rw [alone, elements_nil, List.nil_append] at single
  have visible : ∀ octet ∈ utf8 address, (32 ≤ octet && octet < 127) || octet = 9 := by
    intro octet member
    obtain ⟨least, most, -⟩ := plain.octets member
    simp only [Bool.or_eq_true, Bool.and_eq_true, decide_eq_true_eq, UInt8.le_iff_toNat_le, UInt8.lt_iff_toNat_lt]
    exact Or.inl ⟨by show 32 ≤ octet.toNat; omega, most⟩
  rw [readable]
  cases lines : get_all forwarded xff with
  | nil =>
    rw [lines, elements_nil] at single
    cases single
  | cons line others =>
    rw [lines, elements_cons] at single
    cases pieces : line.splitOn 0x2c with
    | nil => exact absurd pieces (List.splitOn_ne_nil _ _)
    | cons piece rest =>
      rw [pieces, List.map_cons, List.cons_append] at single
      obtain ⟨same, none_else⟩ := List.cons.inj single
      obtain ⟨no_rest, -⟩ := List.append_eq_nil_iff.mp none_else
      have whole : line = piece := by
        have joined : List.intercalate [0x2c] (line.splitOn 0x2c) = line := List.intercalate_splitOn 0x2c
        rw [pieces, List.map_eq_nil_iff.mp no_rest] at joined
        simpa [List.intercalate] using joined.symm
      subst whole
      rw [List.head?_cons, Option.bind_some, to_str, if_pos]
      · rfl
      · refine List.all_eq_true.mpr fun octet member => ?_
        rcases mem_trimmed member with white | kept
        · exact ows_visible octet white
        · rw [same] at kept
          exact visible octet kept

/-- A request behind a trusted proxy that appends `address` to `X-Forwarded-For`:
    its client is the first element of the list that is sent on, which is the
    client's own first element if it sent a list, and else the address. Where the
    first line is not readable or that element is empty the client is the socket
    peer. Without a trusted peer the client is the socket peer whatever the
    headers. -/
theorem client_of_forwarded (trusted : List IpAddr) (parts : Parts) (body : Octets) :
    (∀ (peer : SocketAddr) (address : Text) (sent : HeaderMap), parts.peer = some peer → peer.ip ∈ trusted →
      Address address → Forwards address sent parts.headers →
        (request_from_parts trusted parts body).client =
            (if readable parts.headers ∧ left_most address sent ≠ [] then latin1 (left_most address sent)
              else peer.text) ∧
          (get_all sent xff = [] → (request_from_parts trusted parts body).client = address)) ∧
      ((∀ peer, parts.peer = some peer → peer.ip ∉ trusted) →
        (request_from_parts trusted parts body).client = (parts.peer.map SocketAddr.text).getD (lit "unknown:0") ∧
          (request_from_parts trusted parts body).peer = (parts.peer.map SocketAddr.text).getD (lit "unknown:0")) := by
  constructor
  · intro peer address sent socket inside plain forwards
    have client : (request_from_parts trusted parts body).client =
        if readable parts.headers ∧ left_most address sent ≠ [] then latin1 (left_most address sent) else peer.text := by
      show client_addr trusted parts.peer parts.headers = _
      rw [socket, client_addr, if_pos inside, forwarded_for_eq, forwards_head forwards]
      by_cases text : readable parts.headers = true
      · by_cases empty : left_most address sent = []
        · rw [if_pos text, empty, if_neg fun both => both.2 rfl]
          rfl
        · have some_text : latin1 (left_most address sent) ≠ [] := fun none => empty (List.map_eq_nil_iff.mp none)
          rw [if_pos text, if_pos ⟨text, empty⟩, Option.map_some, Option.filter_some_pos (by simpa using some_text)]
      · rw [if_neg text, if_neg fun both => text both.1]
    refine ⟨client, fun alone => ?_⟩
    have first : left_most address sent = utf8 address := by
      rw [left_most, alone]
      rfl
    have nonempty : utf8 address ≠ [] := by
      intro none
      have back := plain.latin1_utf8
      rw [none] at back
      exact plain.1 back.symm
    rw [client, first, if_pos ⟨readable_alone plain forwards alone, nonempty⟩, plain.latin1_utf8]
  · intro untrusted
    refine ⟨?_, rfl⟩
    show client_addr trusted parts.peer parts.headers = _
    cases socket : parts.peer with
    | none => rfl
    | some peer => exact client_addr_untrusted (untrusted peer socket) _

/-! ### A client that sends a list of its own -/

/-- A request that came over a socket from 127.0.0.1. -/
def fromLoopback (headers : HeaderMap) : Parts where
  method := lit "GET"
  path := lit "/"
  query := none
  authority := none
  headers := headers
  matched_path := none
  peer := some ⟨.v4 127 0 0 1, 4711, 0⟩
  connection := none

def loopback : List IpAddr := trusted_proxies [lit "127.0.0.1"]

/-- The client at 203.0.113.9 sends `X-Forwarded-For: 1.2.3.4` to a trusted
    proxy that appends its address: the handler is told that the client is
    1.2.3.4. -/
theorem client_chooses :
    Address (lit "203.0.113.9") ∧
      Forwards (lit "203.0.113.9") [(xff, utf8 (lit "1.2.3.4"))] [(xff, utf8 (lit "1.2.3.4, 203.0.113.9"))] ∧
      (request_from_parts loopback (fromLoopback [(xff, utf8 (lit "1.2.3.4, 203.0.113.9"))]) []).client =
        lit "1.2.3.4" ∧
      (request_from_parts loopback (fromLoopback [(xff, utf8 (lit "1.2.3.4, 203.0.113.9"))]) []).client ≠
        lit "203.0.113.9" := by
  have told : (request_from_parts loopback (fromLoopback [(xff, utf8 (lit "1.2.3.4, 203.0.113.9"))]) []).client =
      lit "1.2.3.4" := by decide +kernel
  refine ⟨by decide +kernel, forwards_last_line (by decide +kernel) [] (utf8 (lit "1.2.3.4")), told, ?_⟩
  rw [told]
  decide

/-- A client that sends no list, and the one above. -/
theorem client_told :
    (request_from_parts loopback (fromLoopback [(xff, utf8 (lit "203.0.113.9"))]) []).client = lit "203.0.113.9" ∧
      (request_from_parts loopback (fromLoopback [(xff, utf8 (lit "1.2.3.4, 203.0.113.9"))]) []).client =
        latin1 (left_most (lit "203.0.113.9") [(xff, utf8 (lit "1.2.3.4"))]) := by
  constructor
  · exact ((client_of_forwarded loopback (fromLoopback [(xff, utf8 (lit "203.0.113.9"))]) []).1
      ⟨.v4 127 0 0 1, 4711, 0⟩ (lit "203.0.113.9") [] rfl (by decide +kernel) (by decide +kernel)
      (forwards_own_line (by decide +kernel) [])).2 rfl
  · have told := ((client_of_forwarded loopback (fromLoopback [(xff, utf8 (lit "1.2.3.4, 203.0.113.9"))]) []).1
      ⟨.v4 127 0 0 1, 4711, 0⟩ (lit "203.0.113.9") [(xff, utf8 (lit "1.2.3.4"))] rfl (by decide +kernel)
      (by decide +kernel) (forwards_last_line (by decide +kernel) [] (utf8 (lit "1.2.3.4")))).1
    rw [told, if_pos (by decide +kernel)]

end SiphonHttp.Request
