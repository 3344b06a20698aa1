import HtmlTemplate.Escape.Named
import HtmlTemplate.Markup
import HtmlTemplate.Proofs.Escape
namespace HtmlTemplate.StartTag

-- A start tag as HTML's syntax has it. What the syntax does not allow is not read, also
-- where a browser would make something of it.

def isSpace (c : Char) : Bool := c = ' ' || c = '\t' || c = '\n' || c = '\x0c' || c = '\r'

def isBreaking (c : Char) : Bool :=
  isSpace c || c = '"' || c = '\'' || c = '<' || c = '>' || c = '/' || c = '='

def isBarred (c : Char) : Bool := c = '"' || c = '\'' || c = '=' || c = '<' || c = '>' || c = '\x60'

def isWhole (name : String) : Bool := name.toList.all fun c => !isBreaking c

structure IsToken (name : String) : Prop where
  present : name ≠ ""
  whole : isWhole name = true

instance (name : String) : Decidable (IsToken name) :=
  decidable_of_iff (name ≠ "" ∧ isWhole name = true) ⟨fun token => ⟨token.1, token.2⟩, fun token => ⟨token.1, token.2⟩⟩

theorem isWhole_iff {name : String} : isWhole name = true ↔ ∀ c ∈ name.toList, isBreaking c = false := by
  simp [isWhole]

inductive Place where
  | tagName
  | between
  | name (name : List Char)
  | afterName (name : List Char)
  | beforeValue (name : List Char)
  | quoted (quote : Char) (name value : List Char)
  | bare (name value : List Char)
  | afterValue
  | closing
  | closed

structure Reading where
  tag : List Char
  pairs : List (String × String) := []
  place : Place := .tagName

namespace Reading

def go (reading : Reading) (place : Place) : Reading := { reading with place := place }

def add (reading : Reading) (name value : List Char) : Reading :=
  { reading with pairs := reading.pairs ++ [(String.ofList name, String.ofList (Escape.decode value))] }

def leave (reading : Reading) (c : Char) : Option Reading :=
  if isSpace c then some (reading.go .between)
  else if c = '/' then some (reading.go .closing)
  else if c = '>' then some (reading.go .closed)
  else none

def step (reading : Reading) (c : Char) : Option Reading :=
  match reading.place with
  | .tagName => if c.isAlphanum then some { reading with tag := reading.tag ++ [c] } else reading.leave c
  | .between => if isBreaking c then reading.leave c else some (reading.go (.name [c]))
  | .name name =>
    if isSpace c then some (reading.go (.afterName name))
    else if c = '=' then some (reading.go (.beforeValue name))
    else if isBreaking c then (reading.add name []).leave c
    else some (reading.go (.name (name ++ [c])))
  | .afterName name =>
    if isSpace c then some reading
    else if c = '=' then some (reading.go (.beforeValue name))
    else if isBreaking c then (reading.add name []).leave c
    else some ((reading.add name []).go (.name [c]))
  | .beforeValue name =>
    if isSpace c then some reading
    else if c = '"' || c = '\'' then some (reading.go (.quoted c name []))
    else if isBarred c then none
    else some (reading.go (.bare name [c]))
  | .quoted quote name value =>
    if c = quote then some ((reading.add name value).go .afterValue)
    else some (reading.go (.quoted quote name (value ++ [c])))
  | .bare name value =>
    if isSpace c || c = '>' then (reading.add name value).leave c
    else if isBarred c then none
    else some (reading.go (.bare name (value ++ [c])))
  | .afterValue => reading.leave c
  | .closing => if c = '>' then some (reading.go .closed) else none
  | .closed => none

end Reading

abbrev Result := String × List (String × String) × List Char

def readFrom : Reading → List Char → Option Result
  | ⟨tag, pairs, .closed⟩, s => some (String.ofList tag, pairs, s)
  | _, [] => none
  | reading, c :: s =>
    match reading.step c with
    | some next => readFrom next s
    | none => none

def read : List Char → Option Result
  | '<' :: c :: s => if c.isAlpha then readFrom { tag := [c] } s else none
  | _ => none

example : read "<a b C = d e='&lt;'/>f".toList = some ("a", [("b", ""), ("C", "d"), ("e", "<")], ['f']) := by
  decide +kernel

def Place.name? : Place → Option (List Char)
  | .name word | .afterName word | .beforeValue word | .quoted _ word _ | .bare word _ => some word
  | .tagName | .between | .afterValue | .closing | .closed => none

structure Reading.Sound (reading : Reading) : Prop where
  pairs : ∀ pair ∈ reading.pairs, IsToken pair.1
  name : ∀ name, reading.place.name? = some name → IsToken (String.ofList name)

variable {reading next : Reading} {c : Char}

theorem isToken_single (whole : ¬isBreaking c = true) : IsToken (String.ofList [c]) :=
  ⟨by simp, by simpa [isWhole] using whole⟩

theorem IsToken.snoc {name : List Char} (token : IsToken (String.ofList name)) (whole : ¬isBreaking c = true) :
    IsToken (String.ofList (name ++ [c])) := by
  have before := token.whole
  refine ⟨by simp, ?_⟩
  simp only [isWhole, String.toList_ofList, List.all_append, Bool.and_eq_true] at before ⊢
  exact ⟨before, by simpa using whole⟩

theorem Reading.Sound.go (sound : reading.Sound) {place : Place}
    (name : ∀ name, place.name? = some name → IsToken (String.ofList name)) : (reading.go place).Sound :=
  ⟨sound.pairs, name⟩

theorem Reading.Sound.add (sound : reading.Sound) {name : List Char} (known : reading.place.name? = some name)
    (value : List Char) : (reading.add name value).Sound := by
  refine ⟨fun pair member => ?_, sound.name⟩
  rcases List.mem_append.mp member with old | new
  · exact sound.pairs pair old
  · rw [List.mem_singleton.mp new]
    exact sound.name name known

theorem Reading.Sound.leave (sound : reading.Sound) (left : reading.leave c = some next) : next.Sound := by
  unfold Reading.leave at left
  split at left
  · cases left; exact sound.go (by simp [Place.name?])
  split at left
  · cases left; exact sound.go (by simp [Place.name?])
  split at left
  · cases left; exact sound.go (by simp [Place.name?])
  · cases left

theorem Reading.Sound.step (sound : reading.Sound) (stepped : reading.step c = some next) : next.Sound := by
  obtain ⟨tag, pairs, place⟩ := reading
  have same {word : List Char} (token : IsToken (String.ofList word)) {place : Place}
      (named : place.name? = some word) : ∀ name, place.name? = some name → IsToken (String.ofList name) := by
    intro name found
    cases named.symm.trans found
    exact token
  cases place with
  | tagName =>
    simp only [Reading.step] at stepped
    split at stepped
    · cases stepped; exact ⟨sound.pairs, sound.name⟩
    · exact sound.leave stepped
  | between =>
    simp only [Reading.step] at stepped
    split at stepped
    · exact sound.leave stepped
    · rename_i whole
      cases stepped
      exact sound.go (same (isToken_single whole) rfl)
  | name word =>
    have token := sound.name word rfl
    simp only [Reading.step] at stepped
    split at stepped
    · cases stepped; exact sound.go (same token rfl)
    split at stepped
    · cases stepped; exact sound.go (same token rfl)
    split at stepped
    · exact (sound.add rfl []).leave stepped
    · rename_i whole
      cases stepped
      exact sound.go (same (token.snoc whole) rfl)
  | afterName word =>
    have token := sound.name word rfl
    simp only [Reading.step] at stepped
    split at stepped
    · cases stepped; exact sound
    split at stepped
    · cases stepped; exact sound.go (same token rfl)
    split at stepped
    · exact (sound.add rfl []).leave stepped
    · rename_i whole
      cases stepped
      exact (sound.add rfl []).go (same (isToken_single whole) rfl)
  | beforeValue word =>
    have token := sound.name word rfl
    simp only [Reading.step] at stepped
    split at stepped
    · cases stepped; exact sound
    split at stepped
    · cases stepped; exact sound.go (same token rfl)
    split at stepped
    · cases stepped
    · cases stepped; exact sound.go (same token rfl)
  | quoted quote word value =>
    have token := sound.name word rfl
    simp only [Reading.step] at stepped
    split at stepped
    · cases stepped; exact (sound.add rfl value).go (by simp [Place.name?])
    · cases stepped; exact sound.go (same token rfl)
  | bare word value =>
    have token := sound.name word rfl
    simp only [Reading.step] at stepped
    split at stepped
    · exact (sound.add rfl value).leave stepped
    split at stepped
    · cases stepped
    · cases stepped; exact sound.go (same token rfl)
  | afterValue => exact sound.leave stepped
  | closing =>
    simp only [Reading.step] at stepped
    split at stepped
    · cases stepped; exact sound.go (by simp [Place.name?])
    · cases stepped
  | closed => cases stepped

theorem isToken_of_readFrom {s : List Char} {result : Result} (sound : reading.Sound)
    (found : readFrom reading s = some result) : ∀ pair ∈ result.2.1, IsToken pair.1 := by
  fun_induction readFrom reading s with
  | case1 s tag pairs =>
    cases found
    exact sound.pairs
  | case2 => cases found
  | case3 reading c s _ next stepped ih => exact ih (sound.step stepped) found
  | case4 => cases found

theorem isToken_of_read {s : List Char} {result : Result} (found : read s = some result) :
    ∀ pair ∈ result.2.1, IsToken pair.1 := by
  unfold read at found
  split at found
  · split at found
    · exact isToken_of_readFrom ⟨by simp, by simp [Place.name?]⟩ found
    · cases found
  · cases found

def isTagName (tag : String) : Bool :=
  match tag.toList with
  | c :: s => c.isAlpha && s.all Char.isAlphanum
  | [] => false

theorem readFrom_step {s : List Char} (stepped : reading.step c = some next) :
    readFrom reading (c :: s) = readFrom next s := by
  obtain ⟨tag, pairs, place⟩ := reading
  cases place with
  | closed => cases stepped
  | _ => simp only [readFrom, stepped]

theorem isSpace_of_isBreaking (whole : isBreaking c = false) : isSpace c = false ∧ c ≠ '=' := by
  simp only [isBreaking, Bool.or_eq_false_iff, decide_eq_false_iff_not] at whole
  exact ⟨whole.1.1.1.1.1.1, whole.2⟩

theorem readFrom_tagName {tag word s : List Char} (proper : ∀ d ∈ word, d.isAlphanum = true) :
    readFrom { tag := tag } (word ++ s) = readFrom { tag := tag ++ word } s := by
  induction word generalizing tag with
  | nil => rw [List.append_nil, List.nil_append]
  | cons d word ih =>
    have stepped : Reading.step { tag := tag } d = some { tag := tag ++ [d] } := by
      simp only [Reading.step, proper d List.mem_cons_self, if_true]
    rw [List.cons_append, readFrom_step stepped, ih fun e member => proper e (List.mem_cons_of_mem _ member),
      List.append_assoc, List.singleton_append]

theorem readFrom_name {name word s : List Char} (whole : ∀ d ∈ word, isBreaking d = false) :
    readFrom (reading.go (.name name)) (word ++ s) = readFrom (reading.go (.name (name ++ word))) s := by
  induction word generalizing name with
  | nil => rw [List.append_nil, List.nil_append]
  | cons d word ih =>
    have unbroken := whole d List.mem_cons_self
    obtain ⟨solid, other⟩ := isSpace_of_isBreaking unbroken
    have stepped : (reading.go (.name name)).step d = some (reading.go (.name (name ++ [d]))) := by
      simp only [Reading.step, Reading.go, solid, unbroken, other, if_false, Bool.false_eq_true]
    rw [List.cons_append, readFrom_step stepped, ih fun e member => whole e (List.mem_cons_of_mem _ member),
      List.append_assoc, List.singleton_append]

theorem readFrom_quoted {name value word s : List Char} (inside : '"' ∉ word) :
    readFrom (reading.go (.quoted '"' name value)) (word ++ s) =
      readFrom (reading.go (.quoted '"' name (value ++ word))) s := by
  induction word generalizing value with
  | nil => rw [List.append_nil, List.nil_append]
  | cons d word ih =>
    have other : d ≠ '"' := fun same => inside (same ▸ List.mem_cons_self)
    have stepped : (reading.go (.quoted '"' name value)).step d =
        some (reading.go (.quoted '"' name (value ++ [d]))) := by
      simp only [Reading.step, Reading.go, other, if_false]
    rw [List.cons_append, readFrom_step stepped, ih fun member => inside (List.mem_cons_of_mem _ member),
      List.append_assoc, List.singleton_append]

theorem quote_not_mem_html (s : List Char) : '"' ∉ Escape.html s := by
  intro member
  obtain ⟨c, _, inside⟩ := List.mem_flatMap.mp member
  unfold Escape.reserved at inside
  repeat' split at inside
  case' isFalse.isFalse.isFalse.isFalse.isFalse other _ => exact other (List.mem_singleton.mp inside).symm
  all_goals simp at inside

theorem readFrom_attribute {name value : String} {s : List Char} (token : IsToken name)
    (behind : reading.place = .tagName ∨ reading.place = .afterValue) :
    readFrom reading (' ' :: name.toList ++ ['=', '"'] ++ Escape.html value.toList ++ ['"'] ++ s) =
      readFrom ⟨reading.tag, reading.pairs ++ [(name, value)], .afterValue⟩ s := by
  obtain ⟨c, word, spelled⟩ := List.exists_cons_of_ne_nil (by simpa using token.present : name.toList ≠ [])
  have whole : ∀ d ∈ c :: word, isBreaking d = false := spelled ▸ isWhole_iff.mp token.whole
  have left : reading.step ' ' = some (reading.go .between) := by
    rcases behind with at_ | at_ <;> simp only [Reading.step, at_] <;> rfl
  have named : (reading.go .between).step c = some (reading.go (.name [c])) := by
    simp only [Reading.step, Reading.go, whole c List.mem_cons_self, Bool.false_eq_true, if_false]
  have equals : (reading.go (.name name.toList)).step '=' = some (reading.go (.beforeValue name.toList)) := rfl
  have opened : (reading.go (.beforeValue name.toList)).step '"' =
      some (reading.go (.quoted '"' name.toList [])) := rfl
  have closed : (reading.go (.quoted '"' name.toList (Escape.html value.toList))).step '"' =
      some ⟨reading.tag, reading.pairs ++ [(name, value)], .afterValue⟩ := by
    simp [Reading.step, Reading.go, Reading.add, Escape.decode, Escape.Names.decode_html]
  calc readFrom reading (' ' :: name.toList ++ ['=', '"'] ++ Escape.html value.toList ++ ['"'] ++ s)
    _ = readFrom reading (' ' :: c :: (word ++ '=' :: '"' :: (Escape.html value.toList ++ '"' :: s))) := by
      simp [spelled]
    _ = readFrom (reading.go (.name name.toList)) ('=' :: '"' :: (Escape.html value.toList ++ '"' :: s)) := by
      rw [readFrom_step left, readFrom_step named, readFrom_name fun d member => whole d (List.mem_cons_of_mem _ member),
        List.singleton_append, spelled]
    _ = readFrom (reading.go (.quoted '"' name.toList (Escape.html value.toList))) ('"' :: s) := by
      rw [readFrom_step equals, readFrom_step opened, readFrom_quoted (quote_not_mem_html _), List.nil_append]
    _ = readFrom ⟨reading.tag, reading.pairs ++ [(name, value)], .afterValue⟩ s := readFrom_step closed

theorem readFrom_attributes {pairs : List (String × String)} {s : List Char}
    (tokens : ∀ pair ∈ pairs, IsToken pair.1) (behind : reading.place = .tagName ∨ reading.place = .afterValue) :
    readFrom reading (Markup.attributes pairs ++ '>' :: s) =
      some (String.ofList reading.tag, reading.pairs ++ pairs, s) := by
  induction pairs generalizing reading with
  | nil =>
    have closed : reading.step '>' = some (reading.go .closed) := by
      rcases behind with at_ | at_ <;> simp only [Reading.step, at_] <;> rfl
    rw [List.append_nil]
    exact (readFrom_step closed).trans (readFrom.eq_1 ..)
  | cons pair pairs ih =>
    have first := tokens pair List.mem_cons_self
    rw [Markup.attributes, List.flatMap_cons, List.append_assoc, readFrom_attribute first behind, ← Markup.attributes,
      ih (fun other member => tokens other (List.mem_cons_of_mem _ member)) (.inr rfl), List.append_assoc,
      List.singleton_append]

theorem read_startTag {tag : String} {pairs : List (String × String)} (proper : isTagName tag = true)
    (tokens : ∀ pair ∈ pairs, IsToken pair.1) (s : List Char) :
    read (Markup.startTag tag pairs ++ s) = some (tag, pairs, s) := by
  unfold isTagName at proper
  split at proper
  case h_2 => cases proper
  rename_i c word spelled
  obtain ⟨letter, rest⟩ := Bool.and_eq_true_iff.mp proper
  rw [List.all_eq_true] at rest
  have written : Markup.startTag tag pairs ++ s = '<' :: c :: (word ++ (Markup.attributes pairs ++ '>' :: s)) := by
    simp [Markup.startTag, spelled]
  rw [written, read, if_pos letter, readFrom_tagName rest, readFrom_attributes tokens (.inl rfl)]
  simp [← spelled]

end HtmlTemplate.StartTag
