import Mathlib.Data.List.DropRight
import Mathlib.Tactic.SplitIfs

/-!
The generic syntax of URIs, after RFC 3986, as far as it tells where a request
goes: the authority behind `://`, and in it the host and the port. Text behind
an authority belongs to it up to the first `/`, `?` or `#`.
-/
namespace SiphonHttp.Uri

/-! ### Authorities -/

/-- What ends an authority. -/
def ends_authority (c : Char) : Bool := c = '/' || c = '?' || c = '#'

def authority (text : List Char) : List Char := text.takeWhile fun c => !ends_authority c

/-- What follows the last `@`. -/
def host_port (authority : List Char) : List Char := authority.rtakeWhile (· ≠ '@')

/-- A host in brackets ends with them, any other one at the port's `:`. -/
def host (host_port : List Char) : List Char :=
  if host_port.head? = some '[' then host_port.takeWhile (· ≠ ']') ++ (host_port.dropWhile (· ≠ ']')).take 1
  else host_port.takeWhile (· ≠ ':')

/-- What follows the `:` behind the host. -/
def port (host_port : List Char) : List Char := (host_port.drop (host host_port).length).drop 1

variable {front text : List Char}

/-- Text in which nothing ends it stands in front of the rest of an authority. -/
theorem authority_append (plain : ∀ c ∈ front, ends_authority c = false) (text : List Char) :
    authority (front ++ text) = front ++ authority text := by
  rw [authority, List.takeWhile_append_of_pos]
  · rfl
  · intro c member
    rw [plain c member, Bool.not_false]

/-- The text is empty or begins with what ends an authority. -/
def Detached (text : List Char) : Prop := text.head?.all ends_authority = true

instance (text : List Char) : Decidable (Detached text) := inferInstanceAs (Decidable (_ = true))

theorem detached_iff : Detached text ↔ authority text = [] := by
  unfold Detached authority
  cases text with
  | nil => simp
  | cons c text =>
    rw [List.takeWhile_cons]
    cases first : ends_authority c <;> simp [first]

/-- A path, if there is one, is detached. -/
theorem detached_of_prefix {whole : List Char} (detached : Detached whole) (begins : text <+: whole) :
    Detached text := by
  obtain ⟨rest, rfl⟩ := begins
  cases text with
  | nil => simp [Detached]
  | cons c text => exact detached

/-! ### Hosts and ports -/

/-- A name or an IPv4 address, or an IPv6 address in brackets. -/
structure Host where
  text : List Char
  form : (':' ∉ text ∧ text.head? ≠ some '[') ∨ ∃ address, ']' ∉ address ∧ text = '[' :: address ++ [']']
  nonempty : text ≠ []
  no_user : '@' ∉ text
  plain : text.all (fun c => !ends_authority c) = true

theorem Host.not_ends {given : Host} {c : Char} (member : c ∈ given.text) : ends_authority c = false := by
  simpa using List.all_eq_true.mp given.plain c member

/-- The port behind a host, if one is given. -/
def port_text : Option (List Char) → List Char
  | none => []
  | some port => ':' :: port

theorem host_port_eq (no_user : '@' ∉ text) : host_port text = text := by
  rw [host_port, List.rtakeWhile_eq_self_iff]
  intro c member
  exact decide_eq_true fun same => no_user (same ▸ member)

theorem host_append (given : Host) (behind : Option (List Char)) :
    host (given.text ++ port_text behind) = given.text := by
  have stops : List.takeWhile (fun c => decide (c ≠ ':')) (port_text behind) = [] := by
    cases behind <;> simp [port_text]
  unfold host
  rcases given.form with ⟨no_colon, no_bracket⟩ | ⟨address, no_bracket, form⟩
  · have head : (given.text ++ port_text behind).head? ≠ some '[' := by
      rw [List.head?_append_of_ne_nil _ given.nonempty]
      exact no_bracket
    rw [if_neg head, List.takeWhile_append_of_pos, stops, List.append_nil]
    exact fun c member => decide_eq_true fun same => no_colon (same ▸ member)
  · have inside : ∀ c ∈ '[' :: address, decide (c ≠ ']') = true := by
      intro c member
      refine decide_eq_true fun same => ?_
      rcases List.mem_cons.mp member with first | later
      · exact absurd (same.symm.trans first) (by decide)
      · exact no_bracket (same ▸ later)
    have whole : given.text ++ port_text behind = ('[' :: address) ++ (']' :: port_text behind) := by
      rw [form, List.append_assoc, List.singleton_append]
    have head : (('[' :: address) ++ (']' :: port_text behind)).head? = some '[' := rfl
    rw [whole, if_pos head, List.takeWhile_append_of_pos inside, List.dropWhile_append_of_pos inside, form]
    simp

theorem port_append (given : Host) (behind : Option (List Char)) :
    port (given.text ++ port_text behind) = behind.getD [] := by
  rw [port, host_append, List.drop_left]
  cases behind <;> rfl

/-! ### Slashes at the end -/

/-- `text.trim_end_matches(c)`: every `c` at the end is dropped. -/
def trim_end_matches (c : Char) (text : List Char) : List Char := text.rdropWhile (· = c)

/-- What does not end with it is kept in front. -/
theorem trim_end_append {c : Char} (other : ∀ last ∈ front.getLast?, last ≠ c) (text : List Char) :
    trim_end_matches c (front ++ text) = front ++ trim_end_matches c text := by
  unfold trim_end_matches
  induction text using List.reverseRecOn with
  | nil =>
    rw [List.append_nil, List.rdropWhile_nil, List.append_nil, List.rdropWhile_eq_self_iff]
    intro nonempty ends
    exact other _ (List.getLast?_eq_getLast_of_ne_nil nonempty) (of_decide_eq_true ends)
  | append_singleton text last ih =>
    rw [← List.append_assoc, List.rdropWhile_concat, List.rdropWhile_concat, ih]
    split_ifs
    · rfl
    · rw [List.append_assoc]

end SiphonHttp.Uri
