import PageMarkup.Proofs.Json.Numbers
import PageMarkup.Proofs.Json.Strings

/-!
# Values that were printed

The text of a value is cut into the tokens of the value, whatever the space between them, and from
these tokens its tree is built.  So the tree that a printed value spells is known, and whether the
value itself comes back is a matter of its nesting, of its numbers and of the order of its fields.
-/

namespace PageMarkup

open Text

namespace Json

/-! ### Tokens and trees of values -/

mutual

/-- The numbers in a value. -/
def numbers : Json → List Binary64
  | float x => [x]
  | array items => numbersOfItems items
  | object fields => numbersOfFields fields
  | _ => []

/-- The numbers in some items. -/
def numbersOfItems : List Json → List Binary64
  | [] => []
  | item :: items => numbers item ++ numbersOfItems items

/-- The numbers in some fields. -/
def numbersOfFields : List (String × Json) → List Binary64
  | [] => []
  | (_, value) :: fields => numbers value ++ numbersOfFields fields

end

mutual

/-- The tree that a printed value spells. -/
def tree : Json → Tree
  | null => .null
  | bool value => .bool value
  | int n => .number (literalOf (integer n))
  | float x => .number (literalOf (numberLayout.text x))
  | text s => .text (some s)
  | array items => .array (trees items)
  | object fields => .object (fieldTrees fields)

/-- The trees of some items. -/
def trees : List Json → List Tree
  | [] => []
  | item :: items => tree item :: trees items

/-- The trees of some fields. -/
def fieldTrees : List (String × Json) → List (Option String × Tree)
  | [] => []
  | (name, value) :: fields => (some name, tree value) :: fieldTrees fields

end

mutual

/-- The tokens of a value. -/
def tokensOf : Json → List Token
  | array items => .mark '[' :: (tokensOfItems items ++ [.mark ']'])
  | object fields => .mark '\x7b' :: (tokensOfFields fields ++ [.mark '\x7d'])
  | value => [.scalar (tree value)]

/-- The tokens of some items, with commas between them. -/
def tokensOfItems : List Json → List Token
  | [] => []
  | [item] => tokensOf item
  | item :: items => tokensOf item ++ .mark ',' :: tokensOfItems items

/-- The tokens of some fields, with commas between them. -/
def tokensOfFields : List (String × Json) → List Token
  | [] => []
  | [(name, value)] => .scalar (.text (some name)) :: .mark ':' :: tokensOf value
  | (name, value) :: fields =>
    .scalar (.text (some name)) :: .mark ':' ::
      (tokensOf value ++ .mark ',' :: tokensOfFields fields)

end

/-! ### From texts to tokens -/

/-- A token that is read is the first. -/
theorem tokens_append (part : List Char) {rest : List Char} {token : Token} (hne : part ≠ [])
    (h : readToken (part ++ rest) = some (token, rest)) :
    tokens (part ++ rest) = (tokens rest).map (token :: ·) := by
  rw [tokens, scan_append_of_some hne h]
  rfl

/-- A mark is a token. -/
theorem tokens_mark {c : Char} (h : isMark c = true) (rest : List Char) :
    tokens (c :: rest) = (tokens rest).map (.mark c :: ·) := by
  have hne : c ∉ ['"', 't', 'f', 'n'] := by
    intro hc
    have hall : ['"', 't', 'f', 'n'].all (!isMark ·) = true := by decide
    simpa [h] using List.all_eq_true.mp hall c hc
  simp only [List.mem_cons, List.not_mem_nil, or_false, not_or] at hne
  refine tokens_append [c] (by simp) ?_
  simp [readToken, hne, h]

/-- Space is passed over. -/
theorem tokens_space {c : Char} (h : isSpace c = true) (rest : List Char) :
    tokens (c :: rest) = tokens rest := by
  have hnone : readToken (c :: rest) = none := by
    simp only [isSpace, Bool.or_eq_true, beq_iff_eq] at h
    rcases h with ((rfl | rfl) | rfl) | rfl <;> rfl
  rw [tokens, scan_cons_of_none hnone]
  simp [h, tokens]

theorem tokens_lineStart (level : Nat) (rest : List Char) :
    tokens (lineStart level ++ rest) = tokens rest := by
  have hspaces (count : Nat) : tokens (List.replicate count ' ' ++ rest) = tokens rest := by
    induction count with
    | zero => rfl
    | succ count ih => rw [List.replicate_succ, List.cons_append, tokens_space (by decide), ih]
  rw [lineStart, List.cons_append, tokens_space (by decide), hspaces]

/-- What begins with a mark or with space does not belong to a number. -/
theorem endsNumber_cons {c : Char} (h : c = '\n' ∨ isMark c = true) (cs : List Char) :
    EndsNumber (c :: cs) := by
  have hc : isAsciiDigit c = false ∧ c ≠ '.' ∧ c ≠ 'e' ∧ c ≠ 'E' := by
    rcases h with rfl | h
    · decide
    · simp only [isMark, Bool.or_eq_true, beq_iff_eq] at h
      rcases h with ((((rfl | rfl) | rfl) | rfl) | rfl) | rfl <;> decide
  rintro _ ⟨⟩
  exact hc

/-- A text that was printed is a token. -/
theorem tokens_string (s : String) (rest : List Char) :
    tokens (string s ++ rest) = (tokens rest).map (.scalar (.text (some s)) :: ·) :=
  tokens_append _ (by simp [string]) (readToken_string s rest)

/-- A literal that was printed is a token. -/
theorem tokens_number {cs rest : List Char} (h : IsNumber cs) (hrest : EndsNumber rest) :
    tokens (cs ++ rest) = (tokens rest).map (.scalar (.number (literalOf cs)) :: ·) := by
  obtain ⟨first, more, rfl, -⟩ := h.exists_cons
  exact tokens_append _ (by simp) (h.readToken hrest)

/-- A value that holds no others is a token. -/
theorem tokens_scalar {v : Json} (hscalar : tokensOf v = [.scalar (tree v)])
    (h : ∀ x ∈ numbers v, x.isFinite = true) (level : Nat) {rest : List Char}
    (hrest : EndsNumber rest) :
    tokens (indented level v ++ rest) = (tokens rest).map (tokensOf v ++ ·) := by
  rw [hscalar]
  cases v with
  | null => exact tokens_append "null".toList (by decide) rfl
  | bool value =>
    cases value
    · exact tokens_append "false".toList (by decide) rfl
    · exact tokens_append "true".toList (by decide) rfl
  | int n => exact tokens_number (isNumber_integer n) hrest
  | float x => exact tokens_number (isNumber_text (h x (List.mem_singleton_self x))) hrest
  | text s => exact tokens_string s rest
  | array items => exact absurd hscalar (by simp [tokensOf])
  | object fields => exact absurd hscalar (by simp [tokensOf])

/-- An item in front of others. -/
theorem indentedItems_cons (level : Nat) (item next : Json) (items : List Json) (rest : List Char) :
    indentedItems level (item :: next :: items) ++ rest =
      lineStart level ++ (indented level item ++
        ',' :: (indentedItems level (next :: items) ++ rest)) := by
  simp [indentedItems]

theorem tokensOfItems_cons (item next : Json) (items : List Json) :
    tokensOfItems (item :: next :: items) =
      tokensOf item ++ .mark ',' :: tokensOfItems (next :: items) := by
  simp [tokensOfItems]

/-- A field in front of others. -/
theorem indentedFields_cons (level : Nat) (name : String) (value : Json) (next : String × Json)
    (fields : List (String × Json)) (rest : List Char) :
    indentedFields level ((name, value) :: next :: fields) ++ rest =
      lineStart level ++ (string name ++ ':' :: ' ' :: (indented level value ++
        ',' :: (indentedFields level (next :: fields) ++ rest))) := by
  simp [indentedFields]

theorem tokensOfFields_cons (name : String) (value : Json) (next : String × Json)
    (fields : List (String × Json)) :
    tokensOfFields ((name, value) :: next :: fields) =
      .scalar (.text (some name)) :: .mark ':' ::
        (tokensOf value ++ .mark ',' :: tokensOfFields (next :: fields)) := by
  simp [tokensOfFields]

mutual

/-- A printed value is cut into its tokens. -/
theorem tokens_indented : (v : Json) → (∀ x ∈ numbers v, x.isFinite = true) → (level : Nat) →
    (rest : List Char) → EndsNumber rest →
      tokens (indented level v ++ rest) = (tokens rest).map (tokensOf v ++ ·)
  | .array [], _, level, rest, _ => by
    rw [indented, List.cons_append, List.singleton_append, tokens_mark (by decide),
      tokens_mark (by decide), Option.map_map]
    rfl
  | .array (item :: items), h, level, rest, _ => by
    -- the line start before the closing bracket is passed as any blank is
    have hitems := tokens_indentedItems (item :: items) (by simp) h (level + 1)
      (lineStart level ++ ']' :: rest) (endsNumber_cons (.inl rfl) _)
    rw [tokens_lineStart, tokens_mark (by decide)] at hitems
    rw [indented]
    simp only [List.append_assoc, List.cons_append, List.nil_append]
    rw [tokens_mark (by decide), hitems]
    simp [tokensOf, Option.map_map, Function.comp_def]
  | .object [], _, level, rest, _ => by
    rw [indented, List.cons_append, List.singleton_append, tokens_mark (by decide),
      tokens_mark (by decide), Option.map_map]
    rfl
  | .object (field :: fields), h, level, rest, _ => by
    have hfields := tokens_indentedFields (field :: fields) (by simp) h (level + 1)
      (lineStart level ++ '\x7d' :: rest) (endsNumber_cons (.inl rfl) _)
    rw [tokens_lineStart, tokens_mark (by decide)] at hfields
    rw [indented]
    simp only [List.append_assoc, List.cons_append, List.nil_append]
    rw [tokens_mark (by decide), hfields]
    simp [tokensOf, Option.map_map, Function.comp_def]
  | .null, h, level, rest, hrest => tokens_scalar rfl h level hrest
  | .bool value, h, level, rest, hrest => tokens_scalar rfl h level hrest
  | .int n, h, level, rest, hrest => tokens_scalar rfl h level hrest
  | .float x, h, level, rest, hrest => tokens_scalar rfl h level hrest
  | .text s, h, level, rest, hrest => tokens_scalar rfl h level hrest

/-- Printed items are cut into their tokens. -/
theorem tokens_indentedItems : (items : List Json) → items ≠ [] →
    (∀ x ∈ numbersOfItems items, x.isFinite = true) → (level : Nat) → (rest : List Char) →
      EndsNumber rest →
      tokens (indentedItems level items ++ rest) = (tokens rest).map (tokensOfItems items ++ ·)
  | [], hne, _, _, _, _ => absurd rfl hne
  | [item], _, h, level, rest, hrest => by
    have hitem :=
      tokens_indented item (fun x hx => h x (List.mem_append_left _ hx)) level rest hrest
    rw [indentedItems, List.append_assoc, tokens_lineStart, hitem, tokensOfItems]
  | item :: next :: items, _, h, level, rest, hrest => by
    have hitem := tokens_indented item (fun x hx => h x (List.mem_append_left _ hx)) level
      (',' :: (indentedItems level (next :: items) ++ rest)) (endsNumber_cons (.inr (by decide)) _)
    have hitems := tokens_indentedItems (next :: items) (by simp)
      (fun x hx => h x (List.mem_append_right _ hx)) level rest hrest
    rw [tokens_mark (by decide), hitems] at hitem
    rw [indentedItems_cons, tokens_lineStart, hitem, tokensOfItems_cons]
    simp [Option.map_map, Function.comp_def]

/-- Printed fields are cut into their tokens. -/
theorem tokens_indentedFields : (fields : List (String × Json)) → fields ≠ [] →
    (∀ x ∈ numbersOfFields fields, x.isFinite = true) → (level : Nat) → (rest : List Char) →
      EndsNumber rest →
      tokens (indentedFields level fields ++ rest) = (tokens rest).map (tokensOfFields fields ++ ·)
  | [], hne, _, _, _, _ => absurd rfl hne
  | [(name, value)], _, h, level, rest, hrest => by
    have hvalue := tokens_indented value (fun x hx => h x (List.mem_append_left _ hx)) level rest
      hrest
    rw [indentedFields]
    simp only [List.append_assoc, List.cons_append, List.nil_append]
    rw [tokens_lineStart, tokens_string, tokens_mark (by decide), tokens_space (by decide), hvalue]
    simp [tokensOfFields, Option.map_map, Function.comp_def]
  | (name, value) :: next :: fields, _, h, level, rest, hrest => by
    have hvalue := tokens_indented value (fun x hx => h x (List.mem_append_left _ hx)) level
      (',' :: (indentedFields level (next :: fields) ++ rest))
      (endsNumber_cons (.inr (by decide)) _)
    have hfields := tokens_indentedFields (next :: fields) (by simp)
      (fun x hx => h x (List.mem_append_right _ hx)) level rest hrest
    rw [tokens_mark (by decide), hfields] at hvalue
    rw [indentedFields_cons, tokens_lineStart, tokens_string, tokens_mark (by decide),
      tokens_space (by decide), hvalue, tokensOfFields_cons]
    simp [Option.map_map, Function.comp_def]

end

/-! ### From tokens to trees -/

namespace State

/-- The tokens of items begin with no closing mark. -/
theorem run_firstItem {items : List Json} (h : items ≠ []) (outer : List Frame)
    (rest : List Token) :
    run (.firstItem outer) (tokensOfItems items ++ rest) =
      run (.atValue (.items [] :: outer)) (tokensOfItems items ++ rest) := by
  cases items with
  | nil => exact absurd rfl h
  | cons item items =>
    cases items with
    | nil => cases item <;> rfl
    | cons next items => cases item <;> rfl

/-- A first name is read as any other. -/
theorem run_firstName {fields : List (String × Json)} (h : fields ≠ []) (outer : List Frame)
    (rest : List Token) :
    run (.firstName outer) (tokensOfFields fields ++ rest) =
      run (.atName [] outer) (tokensOfFields fields ++ rest) := by
  cases fields with
  | nil => exact absurd rfl h
  | cons field fields => cases fields <;> rfl

mutual

/-- From the tokens of a value its tree is built. -/
theorem run_tokensOf : (v : Json) → (outer : List Frame) → (rest : List Token) →
    run (.atValue outer) (tokensOf v ++ rest) = run (.after (tree v) outer) rest
  | .array [], _, _ | .object [], _, _ => rfl
  | .array (item :: items), outer, rest => by
    have hitems := run_tokensOfItems (item :: items) (by simp) [] outer rest
    rw [tokensOf, List.cons_append, List.append_assoc, List.singleton_append]
    exact (run_firstItem (by simp) outer _).trans hitems
  | .object (field :: fields), outer, rest => by
    have hfields := run_tokensOfFields (field :: fields) (by simp) [] outer rest
    rw [tokensOf, List.cons_append, List.append_assoc, List.singleton_append]
    exact (run_firstName (by simp) outer _).trans hfields
  | .null, _, _ | .bool _, _, _ | .int _, _, _ | .float _, _, _ | .text _, _, _ => rfl

/-- From the tokens of items an array is built. -/
theorem run_tokensOfItems : (items : List Json) → items ≠ [] → (done : List Tree) →
    (outer : List Frame) → (rest : List Token) →
      run (.atValue (.items done :: outer)) (tokensOfItems items ++ .mark ']' :: rest) =
        run (.after (.array (done.reverse ++ trees items)) outer) rest
  | [], hne, _, _, _ => absurd rfl hne
  | [item], _, done, outer, rest => by
    rw [tokensOfItems, run_tokensOf item]
    simp [run, next, trees]
  | item :: other :: items, _, done, outer, rest => by
    have hitems := run_tokensOfItems (other :: items) (by simp) (tree item :: done) outer rest
    rw [tokensOfItems_cons, List.append_assoc, run_tokensOf item, List.cons_append]
    refine hitems.trans ?_
    simp [trees]

/-- From the tokens of fields an object is built. -/
theorem run_tokensOfFields : (fields : List (String × Json)) → fields ≠ [] →
    (done : List (Option String × Tree)) → (outer : List Frame) → (rest : List Token) →
      run (.atName done outer) (tokensOfFields fields ++ .mark '\x7d' :: rest) =
        run (.after (.object (done.reverse ++ fieldTrees fields)) outer) rest
  | [], hne, _, _, _ => absurd rfl hne
  | [(name, value)], _, done, outer, rest => by
    have hvalue := run_tokensOf value (.fields done (some name) :: outer) (.mark '\x7d' :: rest)
    rw [tokensOfFields]
    refine hvalue.trans ?_
    simp [run, next, fieldTrees]
  | (name, value) :: other :: fields, _, done, outer, rest => by
    have hvalue := run_tokensOf value (.fields done (some name) :: outer)
      (.mark ',' :: (tokensOfFields (other :: fields) ++ .mark '\x7d' :: rest))
    have hfields := run_tokensOfFields (other :: fields) (by simp) ((some name, tree value) :: done)
      outer rest
    rw [tokensOfFields_cons]
    simp only [List.cons_append, List.append_assoc]
    refine hvalue.trans (hfields.trans ?_)
    simp [fieldTrees]

end

end State

/-- A printed value spells its tree. -/
theorem read?_indented {v : Json} (h : ∀ x ∈ numbers v, x.isFinite = true) :
    Tree.read? (indented 0 v) = some (tree v) := by
  have htokens := tokens_indented v h 0 [] endsNumber_nil
  have hrun := State.run_tokensOf v [] []
  rw [List.append_nil] at htokens hrun
  rw [Tree.read?, htokens]
  have hnil : tokens [] = some [] := rfl
  rw [hnil, Option.map_some, List.append_nil, Option.bind_eq_bind, Option.bind_some, hrun]
  rfl

end Json

end PageMarkup
