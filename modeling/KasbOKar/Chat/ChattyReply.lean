import KasbOKar.Chat.Classifier
import KasbOKar.Lib.JsonText
import Mathlib.Data.List.DropRight

/-!
# An object among other text

`_extract_json` for an answer with text around its object.  `_JSON_OBJECT_RE` is greedy: what it finds is
the object together with everything up to the last closing brace of the answer.  `json.loads` refuses that
unless the object ends there (`extractJson_lost`), and `extractJson_chatty` says for which answers the
object is returned.
-/

namespace KasbOKar

namespace Detection

open JsonText

/-- `json.loads` decodes the texts of JSON and no other, and returns a `dict` for the objects. -/
structure Decodes (loads : String → Option PyJson) : Prop where
  text : ∀ s, (loads s).isSome = true ↔ Text s.toList
  object : ∀ s data, loads s = some data → ((∃ items, data = .dict items) ↔ ObjectText s.toList)

section Cut

variable {α : Type} {f : α → Bool} {c : α}

/-- Nothing is dropped beyond an element that stays. -/
theorem dropWhile_append_cons (hc : f c = false) (l l' : List α) :
    (l ++ c :: l').dropWhile f = l.dropWhile f ++ c :: l' := by
  induction l with
  | nil =>
    rw [List.nil_append, List.dropWhile_cons_of_neg (by simp [hc]), List.dropWhile_nil, List.nil_append]
  | cons a l ih =>
    rw [List.cons_append]
    by_cases ha : f a = true
    · rw [List.dropWhile_cons_of_pos ha, List.dropWhile_cons_of_pos ha, ih]
    · rw [List.dropWhile_cons_of_neg ha, List.dropWhile_cons_of_neg ha, List.cons_append]

theorem rdropWhile_append_cons (hc : f c = false) (l l' : List α) :
    (l ++ c :: l').rdropWhile f = l ++ c :: l'.rdropWhile f := by
  unfold List.rdropWhile
  rw [List.reverse_append, List.reverse_cons, List.append_assoc, List.singleton_append,
    dropWhile_append_cons hc]
  simp

theorem mem_rdropWhile_iff (hc : f c = false) {l : List α} : c ∈ l.rdropWhile f ↔ c ∈ l := by
  constructor
  · exact fun h => (List.rdropWhile_prefix f l).subset h
  · intro h
    rw [← List.rdropWhile_append_rtakeWhile (p := f) (l := l)] at h
    rcases List.mem_append.1 h with h | h
    · exact h
    · rw [List.mem_rtakeWhile_imp h] at hc
      cases hc

end Cut

/-! ## The parts of the answer -/

variable {p j s : String}

/-- The blanks around the answer are dropped, and the object in it stays. -/
theorem toList_strip (hj : IsObject j.toList) :
    (strip (p ++ j ++ s)).toList =
      p.toList.dropWhile isSpace ++ j.toList ++ s.toList.rdropWhile isSpace := by
  obtain ⟨inner, hinner, -⟩ := hj
  have hstrip : (strip (p ++ j ++ s)).toList =
      ((p ++ j ++ s).toList.dropWhile isSpace).rdropWhile isSpace := String.toList_ofList
  have hleft : p.toList ++ ('{' :: inner ++ ['}']) ++ s.toList =
      p.toList ++ '{' :: (inner ++ ['}'] ++ s.toList) := by simp
  have hright : p.toList.dropWhile isSpace ++ '{' :: (inner ++ ['}'] ++ s.toList) =
      (p.toList.dropWhile isSpace ++ '{' :: inner) ++ '}' :: s.toList := by simp
  rw [hstrip, String.toList_append, String.toList_append, hinner, hleft,
    dropWhile_append_cons (by decide), hright, rdropWhile_append_cons (by decide)]
  simp

/-- An answer without a backtick before its object is no code block. -/
theorem cleanReply_eq (hj : IsObject j.toList) (hp : '\x60' ∉ p.toList) :
    cleanReply (p ++ j ++ s) = strip (p ++ j ++ s) := by
  unfold cleanReply
  dsimp only
  rw [if_neg]
  intro hfence
  obtain ⟨rest, hrest⟩ := List.isPrefixOf_iff_prefix.1 hfence
  rw [toList_strip hj] at hrest
  obtain ⟨inner, hinner, -⟩ := hj
  rw [hinner] at hrest
  cases hstart : p.toList.dropWhile isSpace with
  | nil =>
    rw [hstart] at hrest
    cases hrest
  | cons c start =>
    rw [hstart] at hrest
    obtain rfl : '\x60' = c := (List.cons.inj hrest).1
    have hmem : '\x60' ∈ p.toList.dropWhile isSpace := by
      rw [hstart]
      exact List.mem_cons_self
    exact hp ((List.dropWhile_suffix isSpace).subset hmem)

/-- What `_JSON_OBJECT_RE` finds: the object, and the text behind it up to the last closing brace. -/
theorem jsonObject_strip (hj : IsObject j.toList) (hp : '{' ∉ p.toList) :
    jsonObject (strip (p ++ j ++ s)) =
      some (.ofList (j.toList ++ (s.toList.rdropWhile isSpace).rdropWhile (· != '}'))) := by
  have hstrip := toList_strip (p := p) (s := s) hj
  obtain ⟨inner, hinner, -⟩ := hj
  have hnone : (p.toList.dropWhile isSpace).dropWhile (· != '{') = [] := by
    rw [List.dropWhile_eq_nil_iff]
    intro c hc
    rw [bne_iff_ne]
    rintro rfl
    exact hp ((List.dropWhile_suffix isSpace).subset hc)
  have hfound : (((strip (p ++ j ++ s)).toList.dropWhile (· != '{')).reverse.dropWhile
      (· != '}')).reverse = j.toList ++ (s.toList.rdropWhile isSpace).rdropWhile (· != '}') := by
    change ((strip (p ++ j ++ s)).toList.dropWhile (· != '{')).rdropWhile (· != '}') = _
    rw [hstrip, hinner, List.append_assoc, List.cons_append, List.cons_append,
      dropWhile_append_cons (by decide), hnone, List.nil_append, List.append_assoc, ← List.cons_append,
      List.singleton_append, rdropWhile_append_cons (by decide)]
    simp
  unfold jsonObject
  dsimp only
  rw [hfound, hinner]
  rfl

/-! ## Which objects are returned -/

/-- A text is a `dict` of `json.loads` for an object. -/
theorem Decodes.dict {loads : String → Option PyJson} (hloads : Decodes loads) (hj : IsObject j.toList) :
    ∃ items, loads j = some (.dict items) := by
  obtain ⟨data, hdata⟩ := Option.isSome_iff_exists.1 ((hloads.text j).2 hj.text)
  obtain ⟨items, rfl⟩ := (hloads.object j data hdata).2 hj.objectText
  exact ⟨items, hdata⟩

theorem Decodes.none {loads : String → Option PyJson} (hloads : Decodes loads) (h : ¬ Text s.toList) :
    loads s = none := by
  rw [← Option.not_isSome_iff_eq_none, hloads.text]
  exact h

/-- A closing brace behind the object: `_extract_json` returns nothing. -/
theorem extractJson_lost {loads : String → Option PyJson} (hloads : Decodes loads)
    (hj : IsObject j.toList) (hopen : '{' ∉ p.toList) (hfence : '\x60' ∉ p.toList)
    (htext : ¬ Text (strip (p ++ j ++ s)).toList) (hclose : '}' ∈ s.toList) :
    extractJson loads (p ++ j ++ s) = none := by
  have hrest : '}' ∈ (s.toList.rdropWhile isSpace).rdropWhile (· != '}') := by
    rwa [mem_rdropWhile_iff (by decide), mem_rdropWhile_iff (by decide)]
  unfold extractJson
  dsimp only
  rw [cleanReply_eq hj hfence, hloads.none htext, jsonObject_strip hj hopen]
  refine hloads.none ?_
  rw [String.toList_ofList]
  intro hfound
  rcases blank_of_text hj hfound '}' hrest with h | h | h | h <;> cases h

/-- Without a closing brace behind it the object is found. -/
theorem extractJson_found {loads : String → Option PyJson} (hloads : Decodes loads)
    (hj : IsObject j.toList) (hopen : '{' ∉ p.toList) (hfence : '\x60' ∉ p.toList)
    (htext : ¬ Text (strip (p ++ j ++ s)).toList) (hclose : '}' ∉ s.toList) :
    extractJson loads (p ++ j ++ s) = loads j := by
  have hrest : (s.toList.rdropWhile isSpace).rdropWhile (· != '}') = [] := by
    rw [List.rdropWhile_eq_nil_iff]
    intro c hc
    rw [bne_iff_ne]
    rintro rfl
    exact hclose ((mem_rdropWhile_iff (by decide)).1 hc)
  unfold extractJson
  dsimp only
  rw [cleanReply_eq hj hfence, hloads.none htext, jsonObject_strip hj hopen, hrest, List.append_nil,
    String.ofList_toList]
  rfl

theorem isSpace_of_blank {l : List Char} (h : Blank l) : ∀ c ∈ l, isSpace c = true := by
  intro c hc
  rcases h c hc with rfl | rfl | rfl | rfl <;> decide

/-- A text that is an object up to blanks is that object when it is stripped. -/
theorem strip_objectText {l : String} (h : ObjectText l.toList) : IsObject (strip l).toList := by
  obtain ⟨a, j, b, hsplit, ha, hj, hb⟩ := h
  have hparts : l = .ofList a ++ .ofList j ++ .ofList b := by
    rw [← String.toList_inj, hsplit]
    simp
  have hobject : IsObject (String.ofList j).toList := by rwa [String.toList_ofList]
  rw [hparts, toList_strip hobject, String.toList_ofList, String.toList_ofList, String.toList_ofList,
    List.dropWhile_eq_nil_iff.2 (isSpace_of_blank ha),
    List.rdropWhile_eq_nil_iff.2 (isSpace_of_blank hb), List.nil_append, List.append_nil]
  exact hj

/-- An answer that is an object is the one that it contains. -/
theorem strip_eq_of_objectText (hj : IsObject j.toList) (hopen : '{' ∉ p.toList)
    (h : ObjectText (strip (p ++ j ++ s)).toList) : strip (p ++ j ++ s) = j := by
  have hobject := strip_objectText h
  rw [strip_strip, toList_strip hj, List.append_assoc] at hobject
  rw [← String.toList_inj, toList_strip hj]
  cases hstart : p.toList.dropWhile isSpace with
  | nil =>
    rw [hstart, List.nil_append] at hobject
    have hsplit := isObject_unique hj hobject (List.append_nil _).symm
    rw [List.nil_append]
    exact hsplit.1.symm
  | cons c start =>
    rw [hstart] at hobject
    obtain ⟨inner, hinner, -⟩ := hobject
    obtain rfl : c = '{' := (List.cons.inj hinner).1
    have hmem : '{' ∈ p.toList.dropWhile isSpace := by
      rw [hstart]
      exact List.mem_cons_self
    exact absurd ((List.dropWhile_suffix isSpace).subset hmem) hopen

/-- **When the object of a chatty answer is returned**: it is all that the answer has, or the answer is no
JSON and has no closing brace behind the object. -/
theorem extractJson_chatty {loads : String → Option PyJson} (hloads : Decodes loads)
    (hj : IsObject j.toList) (hopen : '{' ∉ p.toList) (hfence : '\x60' ∉ p.toList) :
    ∃ items, loads j = some (.dict items) ∧
      (extractJson loads (p ++ j ++ s) = some (.dict items) ↔
        strip (p ++ j ++ s) = j ∨ (¬ Text (strip (p ++ j ++ s)).toList ∧ '}' ∉ s.toList)) := by
  obtain ⟨items, hitems⟩ := hloads.dict hj
  refine ⟨items, hitems, ?_⟩
  by_cases htext : Text (strip (p ++ j ++ s)).toList
  · obtain ⟨data, hdata⟩ := Option.isSome_iff_exists.1 ((hloads.text _).2 htext)
    have hresult : extractJson loads (p ++ j ++ s) = some data := by
      unfold extractJson
      dsimp only
      rw [cleanReply_eq hj hfence, hdata]
    rw [hresult]
    constructor
    · intro h
      cases h
      exact .inl (strip_eq_of_objectText hj hopen ((hloads.object _ _ hdata).1 ⟨items, rfl⟩))
    · rintro (hall | ⟨hnot, -⟩)
      · rw [hall, hitems] at hdata
        exact hdata.symm
      · exact absurd htext hnot
  · have hne : strip (p ++ j ++ s) ≠ j := by
      intro h
      rw [h] at htext
      exact htext hj.text
    by_cases hclose : '}' ∈ s.toList
    · rw [extractJson_lost hloads hj hopen hfence htext hclose]
      exact iff_of_false nofun fun h => h.elim hne fun h => h.2 hclose
    · rw [extractJson_found hloads hj hopen hfence htext hclose]
      exact iff_of_true hitems (.inr ⟨htext, hclose⟩)

/-- A decoder that keeps of a text whether it is an object. -/
noncomputable def shapeLoads (s : String) : Option PyJson :=
  open Classical in
  if ObjectText s.toList then some (.dict []) else if Text s.toList then some .null else none

theorem shapeLoads_decodes : Decodes shapeLoads where
  text s := by
    unfold shapeLoads
    split_ifs with hobject htext
    · exact iff_of_true rfl hobject.text
    · exact iff_of_true rfl htext
    · exact iff_of_false Bool.false_ne_true htext
  object s data hdata := by
    unfold shapeLoads at hdata
    split_ifs at hdata with hobject
    · cases hdata
      exact iff_of_true ⟨[], rfl⟩ hobject
    · cases hdata
      exact iff_of_false nofun hobject

/-- An object without members. -/
theorem isObject_empty : IsObject "\x7b\x7d".toList := ⟨[], by decide, .inl nofun⟩

theorem not_text_sure {l : List Char} : ¬ Text ('S' :: l) := by
  intro h
  rcases h.head with h | h | h
  · rcases h 'S' List.mem_cons_self with h | h | h | h <;> cases h
  · cases h
  · revert h
    decide

theorem shapeLoads_empty : shapeLoads "\x7b\x7d" = some (.dict []) := if_pos isObject_empty.objectText

theorem extractJson_chatty_smile :
    extractJson shapeLoads ("Sure: " ++ "\x7b\x7d" ++ " :)") = some (.dict []) := by
  have htext : ¬ Text (strip ("Sure: " ++ "\x7b\x7d" ++ " :)")).toList := by
    rw [toList_strip isObject_empty]
    exact not_text_sure
  obtain ⟨items, hitems, hiff⟩ := extractJson_chatty (p := "Sure: ") (s := " :)") shapeLoads_decodes
    isObject_empty (by decide) (by decide)
  rw [shapeLoads_empty] at hitems
  cases hitems
  exact hiff.2 (.inr ⟨htext, by decide⟩)

/-- The object is lost to a brace behind it. -/
theorem chatty_brace :
    IsObject "\x7b\x7d".toList ∧ '{' ∉ "Sure: ".toList ∧ '\x60' ∉ "Sure: ".toList ∧
      ¬ Text ("Sure: " ++ "\x7b\x7d" ++ " :\x7d").toList ∧
      shapeLoads "\x7b\x7d" = some (.dict []) ∧
      extractJson shapeLoads ("Sure: " ++ "\x7b\x7d" ++ " :\x7d") = none := by
  have htext : ¬ Text (strip ("Sure: " ++ "\x7b\x7d" ++ " :\x7d")).toList := by
    rw [toList_strip isObject_empty]
    exact not_text_sure
  exact ⟨isObject_empty, by decide, by decide, not_text_sure, shapeLoads_empty,
    extractJson_lost shapeLoads_decodes isObject_empty (by decide) (by decide) htext (by decide)⟩

end Detection

end KasbOKar
