import HtmlTemplate.Proofs.Guard
import Mathlib.Data.List.DropRight
namespace HtmlTemplate.Url

-- How a browser reads an address. Controls and spaces are dropped at both ends, tabs
-- and line breaks everywhere; a scheme is then a letter, further letters, digits and
-- three signs, up to a colon. All of this is ASCII.

def isEdge (c : Char) : Bool := c.toNat ≤ 0x20

def isBreak (c : Char) : Bool := c = '\t' || c = '\n' || c = '\r'

def tidy (url : List Char) : List Char := ((url.dropWhile isEdge).rdropWhile isEdge).filter fun c => !isBreak c

inductive IsScheme : List Char → Prop where
  | letter (c : Char) (name : List Char) : c.isAlpha = true →
      (∀ d ∈ name, d.isAlpha = true ∨ d.isDigit = true ∨ d = '+' ∨ d = '-' ∨ d = '.') → IsScheme (c :: name)

def Reads (url scheme : String) : Prop :=
  ∃ name rest, tidy url.toList = name ++ ':' :: rest ∧ IsScheme name ∧ scheme = String.ofList (name.map Char.toLower)

def quiet (url : List Char) : List Char := url.filter fun c => !isNoise c

variable {url name rest : List Char} {c : Char}

theorem isSchemeChar_iff :
    isSchemeChar c = true ↔ c.isAlpha = true ∨ c.isDigit = true ∨ c = '+' ∨ c = '-' ∨ c = '.' := by
  simp only [isSchemeChar, Char.isAlphanum, Bool.or_eq_true, decide_eq_true_eq]
  grind

theorem isSchemeChar_of_isScheme (scheme : IsScheme name) : ∀ d ∈ name, isSchemeChar d = true := by
  cases scheme with
  | letter c name letter more =>
    intro d member
    rcases List.mem_cons.mp member with rfl | later
    · exact isSchemeChar_iff.mpr (.inl letter)
    · exact isSchemeChar_iff.mpr (more d later)

theorem toNat_of_isUpper (known : c.isUpper = true) : 65 ≤ c.toNat ∧ c.toNat ≤ 90 := of_decide_eq_true known

theorem toNat_of_isLower (known : c.isLower = true) : 97 ≤ c.toNat ∧ c.toNat ≤ 122 := by
  obtain ⟨above, below⟩ := Bool.and_eq_true_iff.mp known
  exact ⟨of_decide_eq_true above, of_decide_eq_true below⟩

theorem toNat_of_isDigit (known : c.isDigit = true) : 48 ≤ c.toNat ∧ c.toNat ≤ 57 := by
  obtain ⟨above, below⟩ := Bool.and_eq_true_iff.mp known
  exact ⟨of_decide_eq_true above, of_decide_eq_true below⟩

theorem toNat_of_isSchemeChar (known : isSchemeChar c = true) : 0x20 < c.toNat ∧ c.toNat < 0x7f := by
  rcases isSchemeChar_iff.mp known with letter | digit | rfl | rfl | rfl
  · rcases Bool.or_eq_true_iff.mp letter with upper | lower
    · have := toNat_of_isUpper upper
      omega
    · have := toNat_of_isLower lower
      omega
  · have := toNat_of_isDigit digit
    omega
  · decide
  · decide
  · decide

theorem isNoise_of_isSchemeChar (known : isSchemeChar c = true) : isNoise c = false := by
  have visible := toNat_of_isSchemeChar known
  simp only [isNoise, Bool.or_eq_false_iff, decide_eq_false_iff_not]
  omega

theorem schemeChars?_eq (url : List Char) :
    schemeChars? url =
      match (quiet url).takeWhile isSchemeChar, (quiet url).drop ((quiet url).takeWhile isSchemeChar).length with
      | c :: _, ':' :: _ => if c.isAlpha then some (((quiet url).takeWhile isSchemeChar).map Char.toLower) else none
      | _, _ => none := rfl

theorem schemeChars?_eq_some_iff {scheme : List Char} :
    schemeChars? url = some scheme ↔
      ∃ name rest, quiet url = name ++ ':' :: rest ∧ IsScheme name ∧ scheme = name.map Char.toLower := by
  rw [schemeChars?_eq]
  constructor
  · intro found
    have seen : ∀ d ∈ (quiet url).takeWhile isSchemeChar, isSchemeChar d = true := fun d => List.mem_takeWhile_imp
    have whole := List.take_append_drop ((quiet url).takeWhile isSchemeChar).length (quiet url)
    rw [← List.prefix_iff_eq_take.mp (List.takeWhile_prefix isSchemeChar)] at whole
    split at found
    · rename_i c name rest front back
      rw [front] at found seen whole
      rw [← front, back] at whole
      split at found
      · rename_i letter
        cases found
        rw [front] at whole
        refine ⟨c :: name, rest, whole.symm, ?_, rfl⟩
        exact .letter c name letter fun d member => isSchemeChar_iff.mp (seen d (List.mem_cons_of_mem _ member))
      · cases found
    · cases found
  · rintro ⟨name, rest, parts, isScheme, rfl⟩
    have front : (quiet url).takeWhile isSchemeChar = name := by
      rw [parts, List.takeWhile_append_of_pos (isSchemeChar_of_isScheme isScheme),
        List.takeWhile_cons_of_neg (by decide), List.append_nil]
    have back : (quiet url).drop name.length = ':' :: rest := by rw [parts, List.drop_left]
    rw [front, back]
    cases isScheme with
    | letter c name letter more => simp [letter]

theorem filter_dropWhile {p q : Char → Bool} (lost : ∀ c, q c = true → p c = false) (s : List Char) :
    (s.dropWhile q).filter p = s.filter p := by
  induction s with
  | nil => rfl
  | cons c s ih =>
    cases edge : q c with
    | true => rw [List.dropWhile_cons_of_pos edge, ih, List.filter_cons_of_neg (by simp [lost c edge])]
    | false => rw [List.dropWhile_cons_of_neg (by simp [edge])]

theorem filter_rdropWhile {p q : Char → Bool} (lost : ∀ c, q c = true → p c = false) (s : List Char) :
    (s.rdropWhile q).filter p = s.filter p := by
  rw [List.rdropWhile, List.filter_reverse, filter_dropWhile lost, List.filter_reverse, List.reverse_reverse]

theorem isNoise_of_isEdge (edge : isEdge c = true) : isNoise c = true := by
  simp only [isEdge, decide_eq_true_eq] at edge
  simp [isNoise, edge]

theorem isNoise_of_isBreak (broken : isBreak c = true) : isNoise c = true := by
  simp only [isBreak, Bool.or_eq_true, decide_eq_true_eq] at broken
  rcases broken with (rfl | rfl) | rfl <;> decide

theorem quiet_tidy (url : List Char) : quiet (tidy url) = quiet url := by
  have lost (c : Char) (edge : isEdge c = true) : (!isNoise c) = false := by simp [isNoise_of_isEdge edge]
  have both : ∀ c ∈ (url.dropWhile isEdge).rdropWhile isEdge, (!isNoise c && !isBreak c) = !isNoise c := by
    intro c _
    cases broken : isBreak c with
    | true => simp [isNoise_of_isBreak broken]
    | false => simp
  rw [quiet, tidy, List.filter_filter, List.filter_congr both, filter_rdropWhile lost, filter_dropWhile lost]
  rfl

theorem quiet_of_isScheme (scheme : IsScheme name) : quiet (name ++ ':' :: rest) = name ++ ':' :: quiet rest := by
  have kept : quiet name = name := by
    apply List.filter_eq_self.mpr
    intro c member
    simp [isNoise_of_isSchemeChar (isSchemeChar_of_isScheme scheme c member)]
  rw [quiet, List.filter_append, List.filter_cons_of_pos (by decide)]
  exact congrArg (· ++ ':' :: quiet rest) kept

-- The check sees every scheme that a browser reads, and decides by it. What it lets
-- through has no scheme for a browser, or one of those that are safe.
theorem scheme?_of_reads (url : String) :
    (∀ scheme, Reads url scheme → scheme? url = some scheme ∧ ∀ name,
      check name url = if scheme ∈ Vocabulary.safeSchemes then .ok url else .error (.unsafeUrl name scheme)) ∧
    ∀ name checked, check name url = .ok checked →
      checked = url ∧ ((∀ scheme, ¬Reads url scheme) ∨ ∃ scheme ∈ Vocabulary.safeSchemes, Reads url scheme) := by
  have seen (scheme : String) (reads : Reads url scheme) : scheme? url = some scheme := by
    obtain ⟨name, rest, parts, isScheme, rfl⟩ := reads
    have found : schemeChars? url.toList = some (name.map Char.toLower) := by
      apply schemeChars?_eq_some_iff.mpr
      refine ⟨name, quiet rest, ?_, isScheme, rfl⟩
      rw [← quiet_tidy, parts, quiet_of_isScheme isScheme]
    rw [scheme?, found, Option.map_some]
  constructor
  · intro scheme reads
    refine ⟨seen scheme reads, ?_⟩
    intro name
    rw [check, seen scheme reads]
  · intro name checked passed
    obtain ⟨same, safe⟩ := Render.scheme_of_check passed
    refine ⟨same, ?_⟩
    by_cases known : ∃ scheme, Reads url scheme
    · obtain ⟨scheme, reads⟩ := known
      exact .inr ⟨scheme, safe scheme (seen scheme reads), reads⟩
    · exact .inl fun scheme reads => known ⟨scheme, reads⟩

theorem scheme?_of_disguised :
    Reads "\x01 Java\tScript\n:alert(1):\x00" "javascript" ∧
    scheme? "\x01 Java\tScript\n:alert(1):\x00" = some "javascript" ∧
    check "href" "\x01 Java\tScript\n:alert(1):\x00" = .error (.unsafeUrl "href" "javascript") := by
  have name : IsScheme "JavaScript".toList := by
    refine .letter 'J' "avaScript".toList rfl ?_
    simp
  have reads : Reads "\x01 Java\tScript\n:alert(1):\x00" "javascript" :=
    ⟨"JavaScript".toList, "alert(1):".toList, by decide +kernel, name, by decide +kernel⟩
  obtain ⟨seen, decided⟩ := (scheme?_of_reads _).1 _ reads
  exact ⟨reads, seen, (decided "href").trans (by decide +kernel)⟩

end HtmlTemplate.Url
