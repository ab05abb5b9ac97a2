import SiphonHttp.Dispatch
import SiphonHttp.Query

/-!
Header fields that a script passes on. A received header map is collapsed to one
text for each name; a response made of that map, in whatever order its entries
come, carries all of them, and collapses to the same map (`relayed_headers`).
-/
namespace SiphonHttp.Request
open Text Parse Overwrite Dispatch

/-! ### Visible texts -/

/-- Visible ASCII, space and tab. -/
def Visible (text : Text) : Prop := ∀ c ∈ text, (32 ≤ c.toNat ∧ c.toNat < 127) ∨ c.toNat = 9

theorem Visible.ascii {text : Text} (visible : Visible text) : Ascii text := by
  intro c member
  have := visible c member
  omega

/-- What is read of a value is visible. -/
theorem to_str_visible {value : Octets} {text : Text} (read : to_str value = some text) : Visible text := by
  unfold to_str at read
  split_ifs at read with visible
  obtain rfl := Option.some.inj read
  intro c member
  obtain ⟨octet, inside, rfl⟩ := List.mem_map.mp member
  have here := List.all_eq_true.mp visible octet inside
  rw [octet_toNat]
  simp only [Bool.or_eq_true, Bool.and_eq_true, decide_eq_true_eq, UInt8.le_iff_toNat_le, UInt8.lt_iff_toNat_lt,
    ← UInt8.toNat_inj] at here
  exact here

theorem utf8_octets {text : Text} (ascii : Ascii text) : utf8 text = text.map fun c => UInt8.ofNat c.toNat := by
  induction text with
  | nil => rfl
  | cons c text ih => rw [utf8_ascii_cons (ascii c (List.mem_cons_self ..)), ih ascii.tail, List.map_cons]

/-- A visible text is read back from its octets. -/
theorem to_str_utf8 {text : Text} (visible : Visible text) : to_str (utf8 text) = some text := by
  have all : (utf8 text).all (fun octet => (32 ≤ octet && octet < 127) || octet = 9) = true := by
    rw [utf8_octets visible.ascii, List.all_map, List.all_eq_true]
    intro c member
    have here := visible c member
    have octet := toNat_octet (visible.ascii c member)
    simp only [Function.comp_apply, Bool.or_eq_true, Bool.and_eq_true, decide_eq_true_eq, UInt8.le_iff_toNat_le,
      UInt8.lt_iff_toNat_lt, ← UInt8.toNat_inj, octet]
    exact here
  rw [to_str, if_pos all]
  exact congrArg some ((latin1_utf8 text).mpr visible.ascii)

theorem visible_join {values : List Text} (visible : ∀ value ∈ values, Visible value) :
    Visible (join (lit ", ") values) := by
  intro c member
  rcases join_chars member with between | ⟨value, listed, inside⟩
  · have separator : c = ',' ∨ c = ' ' := by simpa [lit] using between
    rcases separator with rfl | rfl <;> decide
  · exact visible value listed c inside

/-! ### Received fields -/

/-- What is documented of the names and values of header maps, and of the room in
    one. -/
structure Documented (crates : Crates) : Prop where
  lower_cased : ∀ octets name, crates.header_name octets = some name → to_ascii_lowercase name = name
  accepts_name : ∀ octets name, crates.header_name octets = some name → crates.header_name (utf8 name) = some name
  accepts_value : ∀ text, Visible text → crates.header_value text = some (utf8 text)
  /-- A map that has room for some names has room for one value of each. -/
  has_room : ∀ received fields : HeaderMap, crates.builds received = true → (fields.map Prod.fst).Nodup →
    fields.map Prod.fst ⊆ received.map Prod.fst → crates.builds fields = true

/-- A header map, as the crates make one of a message. -/
structure Received (crates : Crates) (headers : HeaderMap) : Prop where
  named : ∀ field ∈ headers, ∃ octets, crates.header_name octets = some field.1
  fits : crates.builds headers = true

theorem eraseDups_nodup (names : List Text) : names.eraseDups.Nodup := by
  induction length : names.length using Nat.strongRecOn generalizing names with
  | _ length ih =>
    cases names with
    | nil => simp
    | cons name names =>
      rw [List.eraseDups_cons, List.nodup_cons]
      refine ⟨fun again => ?_, ?_⟩
      · have kept := (List.mem_filter.mp (List.mem_eraseDups.mp again)).2
        simp at kept
      · have shorter := List.length_filter_le (fun other => !other == name) names
        simp only [List.length_cons] at length
        exact ih _ (by omega) _ rfl

/-- The values of the name that can be read, in order. -/
def readable_values (headers : HeaderMap) (name : Text) : List Text :=
  headers.filterMap fun field => if to_ascii_lowercase field.1 = name then to_str field.2 else none

def LowerCased (headers : HeaderMap) : Prop := ∀ field ∈ headers, to_ascii_lowercase field.1 = field.1

theorem readable_visible {headers : HeaderMap} {name : Text} :
    ∀ value ∈ readable_values headers name, Visible value := by
  intro value member
  obtain ⟨field, -, read⟩ := List.mem_filterMap.mp member
  split_ifs at read
  exact to_str_visible read

section
variable {headers : HeaderMap} (lower : LowerCased headers)
include lower

theorem get_all_readable (name : Text) : (get_all headers name).filterMap to_str = readable_values headers name := by
  rw [get_all, List.filterMap_map, List.filterMap_filter]
  refine List.filterMap_congr fun field member => ?_
  rw [lower field member]
  by_cases same : field.1 = name <;> simp [same]

/-- A name with a value that can be read is a name of the map. -/
theorem mem_names {name : Text} (some_value : readable_values headers name ≠ []) : name ∈ headers.map Prod.fst := by
  obtain ⟨value, member⟩ := List.exists_mem_of_ne_nil _ some_value
  obtain ⟨field, inside, read⟩ := List.mem_filterMap.mp member
  split_ifs at read with same
  rw [lower field inside] at same
  exact same ▸ List.mem_map_of_mem inside

theorem joined_headers_eq :
    joined_headers headers = ((headers.map Prod.fst).eraseDups.filter fun name => readable_values headers name ≠ []).map
      fun name => (name, join (lit ", ") (readable_values headers name)) := by
  rw [joined_headers, ← List.filterMap_eq_map (f := fun name => (name, join (lit ", ") (readable_values headers name))),
    List.filterMap_filter]
  refine List.filterMap_congr fun name member => ?_
  obtain ⟨field, inside, rfl⟩ := List.mem_map.mp (List.mem_eraseDups.mp member)
  rw [get_all_readable lower, lower field inside]
  by_cases none : readable_values headers field.1 = [] <;> simp [none]

theorem joined_distinct : ((joined_headers headers).map Prod.fst).Nodup := by
  rw [joined_headers_eq lower, List.map_map]
  have names : ∀ list : List Text,
      list.map (Prod.fst ∘ fun name => (name, join (lit ", ") (readable_values headers name))) =
      list := fun list => List.map_id list
  rw [names]
  exact (eraseDups_nodup _).filter _

theorem mem_joined {name value : Text} :
    (name, value) ∈ joined_headers headers ↔
      readable_values headers name ≠ [] ∧ value = join (lit ", ") (readable_values headers name) := by
  rw [joined_headers_eq lower, List.mem_map]
  constructor
  · rintro ⟨other, member, same⟩
    cases same
    exact ⟨by simpa using (List.mem_filter.mp member).2, rfl⟩
  · rintro ⟨some_value, rfl⟩
    refine ⟨name, List.mem_filter.mpr ⟨List.mem_eraseDups.mpr (mem_names lower some_value), ?_⟩, rfl⟩
    simpa using some_value

/-- The map has the names with a value that can be read, each with all these. -/
theorem lookup_headers_to_map {name value : Text} :
    (headers_to_map headers).lookup name = some value ↔
      readable_values headers name ≠ [] ∧ value = join (lit ", ") (readable_values headers name) := by
  rw [show headers_to_map headers = fill ∅ (joined_headers headers) from rfl, lookup_fill_empty,
    last_eq_some (joined_distinct lower), mem_joined lower]

end

/-! ### Passing them on -/

/-- With distinct names there is one value of a name at most. -/
theorem values_of_distinct {fields : List (Text × Text)} (distinct : (fields.map Prod.fst).Nodup) (name : Text) :
    fields.filterMap (fun field => if field.1 = name then some field.2 else none) = (last name fields).toList := by
  induction fields using List.reverseRecOn with
  | nil => rfl
  | append_singleton fields field ih =>
    rw [List.map_append, List.map_singleton, List.nodup_append] at distinct
    obtain ⟨rest, -, apart⟩ := distinct
    rw [List.filterMap_append, ih rest, last_append, last_singleton]
    by_cases same : field.1 = name
    · have fresh : last name fields = none := by
        rw [last_eq_none]
        intro other member equal
        exact apart other.1 (List.mem_map_of_mem member) field.1 (List.mem_singleton_self _) (equal.trans same.symm)
      simp [same, fresh]
    · simp [same, Ne.symm same]

section
variable {crates : Crates} (documented : Documented crates) {received : HeaderMap} (made : Received crates received)
include documented made

theorem received_lower : LowerCased received := by
  intro field member
  obtain ⟨octets, named⟩ := made.named field member
  exact documented.lower_cased octets field.1 named

/-- An entry of the map has a name that was received and a visible value. -/
theorem entry_of_received {name value : Text} (found : (headers_to_map received).lookup name = some value) :
    name ∈ received.map Prod.fst ∧ to_ascii_lowercase name = name ∧ crates.header_name (utf8 name) = some name ∧
      Visible value := by
  have lower := received_lower documented made
  obtain ⟨some_value, rfl⟩ := (lookup_headers_to_map lower).mp found
  have named := mem_names lower some_value
  obtain ⟨field, member, rfl⟩ := List.mem_map.mp named
  obtain ⟨octets, accepted⟩ := made.named field member
  exact ⟨named, lower field member, documented.accepts_name octets field.1 accepted, visible_join readable_visible⟩

variable {order : List (Text × Text)} (lists : Lists (headers_to_map received) order)
include lists

/-- No entry is dropped. -/
theorem valid_fields_relayed : crates.valid_fields order = order.map fun field => (field.1, utf8 field.2) := by
  rw [Crates.valid_fields, ← List.filterMap_eq_map (f := fun field : Text × Text => (field.1, utf8 field.2))]
  refine List.filterMap_congr fun field member => ?_
  obtain ⟨-, -, accepted, visible⟩ := entry_of_received documented made ((lists.complete field.1 field.2).mpr member)
  simp [accepted, documented.accepts_value field.2 visible]

theorem relayed_lower : LowerCased (order.map fun field => (field.1, utf8 field.2)) := by
  intro field member
  obtain ⟨entry, inside, rfl⟩ := List.mem_map.mp member
  exact (entry_of_received documented made ((lists.complete entry.1 entry.2).mpr inside)).2.1

theorem relayed_values (name : Text) :
    readable_values (order.map fun field => (field.1, utf8 field.2)) name = (last name order).toList := by
  rw [← values_of_distinct lists.distinct, readable_values, List.filterMap_map]
  refine List.filterMap_congr fun field member => ?_
  obtain ⟨-, lower, -, visible⟩ := entry_of_received documented made ((lists.complete field.1 field.2).mpr member)
  simp only [Function.comp_apply, lower, to_str_utf8 visible]

theorem headers_to_map_relayed :
    headers_to_map (order.map fun field => (field.1, utf8 field.2)) = headers_to_map received := by
  refine Finmap.ext_lookup fun name => Option.ext fun value => ?_
  rw [lookup_headers_to_map (relayed_lower documented made lists), relayed_values documented made lists, lists.complete,
    ← last_eq_some lists.distinct]
  cases last name order with
  | none => simp
  | some found => simp [join, eq_comm]

theorem relayed_fit : crates.builds (order.map fun field => (field.1, utf8 field.2)) = true := by
  have names : (order.map fun field => (field.1, utf8 field.2)).map Prod.fst = order.map Prod.fst := by
    rw [List.map_map]
    rfl
  refine documented.has_room received _ made.fits (names ▸ lists.distinct) ?_
  rw [names]
  intro name member
  obtain ⟨field, inside, rfl⟩ := List.mem_map.mp member
  exact (entry_of_received documented made ((lists.complete field.1 field.2).mpr inside)).1

end

/-- The map of a received header map has the names with a value that can be read,
    each with all of these in order; a response with that map for its headers, in
    any order, has a field for every entry, and gives the map again. -/
theorem relayed_headers {crates : Crates} (documented : Documented crates) {received : HeaderMap}
    (made : Received crates received) {response : PyResponse}
    (lists : Lists (headers_to_map received) response.headers) :
    (∀ name value, (headers_to_map received).lookup name = some value ↔
        readable_values received name ≠ [] ∧ value = join (lit ", ") (readable_values received name)) ∧
      ((ScriptReply.of response).into_response crates).headers =
        response.headers.map (fun field => (field.1, utf8 field.2)) ∧
      headers_to_map ((ScriptReply.of response).into_response crates).headers = headers_to_map received := by
  have fields : ((ScriptReply.of response).into_response crates).headers =
      response.headers.map fun field => (field.1, utf8 field.2) := by
    have valid := valid_fields_relayed documented made lists
    have fits : crates.builds (crates.valid_fields response.headers) = true := by
      rw [valid]
      exact relayed_fit documented made lists
    rw [ScriptReply.into_response, ScriptReply.of, if_pos fits]
    exact valid
  refine ⟨fun name value => lookup_headers_to_map (received_lower documented made), fields, ?_⟩
  rw [fields]
  exact headers_to_map_relayed documented made lists

/-! Two `via` fields and another one, passed on in another order. -/

/-- Crates that take every name, in lower case, and every value. -/
def lenientCrates : Crates where
  header_name := fun name => some (to_ascii_lowercase (from_utf8_lossy name))
  header_value := fun value => some (utf8 value)
  builds := fun _ => true
  too_large_headers := []
  too_large_body := []

theorem lowercase_again (text : Text) : to_ascii_lowercase (to_ascii_lowercase text) = to_ascii_lowercase text := by
  rw [to_ascii_lowercase, to_ascii_lowercase, List.map_map]
  refine List.map_congr_left fun c _ => ?_
  rw [Function.comp_apply]
  by_cases upper : 'A' ≤ c ∧ c ≤ 'Z'
  · have least : 65 ≤ c.toNat := upper.1
    have most : c.toNat ≤ 90 := upper.2
    have code : (Char.ofNat (c.toNat + 32)).toNat = c.toNat + 32 := by
      rw [Char.toNat_ofNat, if_pos (Or.inl (by omega))]
    have lower : ¬('A' ≤ Char.ofNat (c.toNat + 32) ∧ Char.ofNat (c.toNat + 32) ≤ 'Z') := by
      rintro ⟨-, past⟩
      have bound : (Char.ofNat (c.toNat + 32)).toNat ≤ 90 := past
      omega
    rw [if_pos upper, if_neg lower]
  · rw [if_neg upper, if_neg upper]

theorem lenient_documented : Documented lenientCrates where
  lower_cased := by
    intro octets name named
    cases named
    exact lowercase_again _
  accepts_name := by
    intro octets name named
    cases named
    simp only [lenientCrates, from_utf8_lossy_utf8, lowercase_again]
  accepts_value _ _ := rfl
  has_room _ _ _ _ _ := rfl

def proxied : HeaderMap :=
  [(lit "via", utf8 (lit "2.0 SEPP-a.example")), (lit "content-type", utf8 (lit "application/json")),
    (lit "via", utf8 (lit "2.0 SCP-b.example"))]

def passedOn : PyResponse :=
  ⟨200, [(lit "content-type", lit "application/json"), (lit "via", lit "2.0 SEPP-a.example, 2.0 SCP-b.example")], []⟩

theorem passed_on_whole :
    headers_to_map ((ScriptReply.of passedOn).into_response lenientCrates).headers = headers_to_map proxied := by
  have lower : ∀ field ∈ proxied, to_ascii_lowercase field.1 = field.1 := by decide
  have named : ∀ field ∈ proxied, ∃ octets, lenientCrates.header_name octets = some field.1 := by
    intro field member
    refine ⟨utf8 field.1, ?_⟩
    simp only [lenientCrates, from_utf8_lossy_utf8, lower field member]
  have made : Received lenientCrates proxied := ⟨named, rfl⟩
  have distinct : (passedOn.headers.map Prod.fst).Nodup := by decide
  have joined : (joined_headers proxied).Perm passedOn.headers := by decide
  have lists : Lists (headers_to_map proxied) passedOn.headers := by
    refine ⟨distinct, fun name value => ?_⟩
    rw [lookup_headers_to_map (received_lower lenient_documented made),
      ← mem_joined (received_lower lenient_documented made)]
    exact joined.mem_iff
  exact (relayed_headers lenient_documented made lists).2.2

end SiphonHttp.Request
