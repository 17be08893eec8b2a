import PageMarkup.Proofs.Restricted.NormalForm
import PageMarkup.Proofs.Text.Scanning

/-!
# Safe links

What an allowed link is, said without the checks that allow it: it holds none of the characters
that could end the attribute it stands in, and the only schemes it can begin with are those of the
web, with an authority behind them, of mail and of telephones.
-/

namespace PageMarkup

open Text

namespace Restricted

/-- The syntax of schemes in RFC 3986: a letter, then letters, digits and the signs `+`, `-` and
`.`, in any case. -/
def IsScheme (cs : List Char) : Prop :=
  ∃ c rest, cs = c :: rest ∧ isSmallLetter c.toLower = true ∧
    ∀ d ∈ rest, isSmallLetter d.toLower = true ∨ isAsciiDigit d = true ∨ d ∈ ['+', '-', '.']

/-- The characters that no link holds, blanks and control characters apart. -/
def delimiters : List Char :=
  ['"', '\'', '<', '>', '[', ']', '(', ')', '\\', '\x60']

/-- A link that cannot leave the attribute it stands in and names no other scheme than those of the
web, of mail and of telephones. -/
structure IsSafeLink (cs : List Char) : Prop where
  plain : ∀ c ∈ cs, isBlank c = false ∧ isControl c = false ∧ c ∉ delimiters
  scheme : ∀ name rest, cs = name ++ ':' :: rest → IsScheme name →
    (lower name = "http".toList ∨ lower name = "https".toList) ∧ ['/', '/'] <+: rest ∨
      lower name = "mailto".toList ∨ lower name = "tel".toList

/-- The links are the values of the attributes that name an address. -/
def isLink (target : Restricted) : Bool :=
  target == href || target == src || target == bgImage

/-! ### Schemes -/

/-- No mark that ends a scheme is a character of one. -/
theorem IsScheme.forall_ne {cs : List Char} (h : IsScheme cs) :
    ∀ c ∈ cs, (!(c == ':' || c == '/' || c == '?' || c == '#')) = true := by
  have hmark (c : Char) (hc : c ∈ [':', '/', '?', '#']) : isSmallLetter c.toLower = false ∧
      isAsciiDigit c = false ∧ c ∉ ['+', '-', '.'] := by
    simp only [List.mem_cons, List.not_mem_nil, or_false] at hc
    rcases hc with rfl | rfl | rfl | rfl <;> decide
  obtain ⟨first, rest, rfl, hfirst, hrest⟩ := h
  intro c hc
  by_contra hne
  have hmem : c ∈ [':', '/', '?', '#'] := by
    simpa [or_iff_not_imp_left] using hne
  obtain ⟨hletter, hdigit, hsign⟩ := hmark c hmem
  rcases List.mem_cons.mp hc with rfl | hc
  · rw [hfirst] at hletter
    exact absurd hletter (by decide)
  · rcases hrest c hc with h | h | h
    · rw [h] at hletter
      exact absurd hletter (by decide)
    · rw [h] at hdigit
      exact absurd hdigit (by decide)
    · exact hsign h

/-- A text that begins with a scheme has one. -/
theorem IsScheme.hasScheme_append {name : List Char} (h : IsScheme name) (rest : List Char) :
    hasScheme (name ++ ':' :: rest) = true := by
  rw [hasScheme, List.dropWhile_append_of_pos h.forall_ne]
  simp

/-- Making the letters of a scheme small makes no colon. -/
theorem IsScheme.colon_not_mem_lower {cs : List Char} (h : IsScheme cs) : ':' ∉ lower cs := by
  intro hmem
  obtain ⟨c, hc, hlower⟩ := List.mem_map.mp hmem
  have hne := h.forall_ne c hc
  rw [eq_of_toLower_eq hlower (by decide)] at hne
  exact absurd hne (by decide)

/-- A text begins with two slashes if it does so in small letters. -/
theorem slashes_prefix_of_lower {rest tail : List Char} (h : lower rest = '/' :: '/' :: tail) :
    ['/', '/'] <+: rest := by
  obtain ⟨c, afterFirst, rfl, hc, h⟩ := List.map_eq_cons_iff.mp h
  obtain ⟨d, more, rfl, hd, -⟩ := List.map_eq_cons_iff.mp h
  rw [eq_of_toLower_eq hc (by decide), eq_of_toLower_eq hd (by decide)]
  exact ⟨more, rfl⟩

/-! ### Allowed links -/

/-- An allowed link is safe. -/
theorem isSafeLink_of_allowLink {cs value : List Char} (h : allowLink cs = some value) :
    IsSafeLink value := by
  obtain ⟨-, -, -, hbreaking, hscheme⟩ := allowLink_eq_some h
  refine ⟨fun c hc => ?_, ?_⟩
  · have hc := List.any_eq_false.mp hbreaking c hc
    simpa [isBreaking, delimiters, and_assoc] using hc
  · rintro name rest rfl hname
    rw [hname.hasScheme_append] at hscheme
    obtain ⟨scheme, hmem, hafter⟩ := List.any_eq_true.mp (hscheme.resolve_left (by decide))
    obtain ⟨tail, htail⟩ := Option.isSome_iff_exists.mp hafter
    have hvalue := after?_eq_some_iff.mp htail
    have hlower : lower (name ++ ':' :: rest) = lower name ++ ':' :: lower rest := by
      simp [lower]
    rw [hlower] at hvalue
    -- the first colon ends the name and the scheme, so both are the same
    have hnocolon := hname.colon_not_mem_lower
    simp only [schemes, List.mem_cons, List.not_mem_nil, or_false] at hmem
    rcases hmem with rfl | rfl | rfl | rfl
    · obtain ⟨hfront, hrest⟩ := @eq_and_eq_of_append_cons ':' _ _ "http".toList ('/' :: '/' :: tail)
        hvalue hnocolon (by decide)
      exact .inl ⟨.inl hfront, slashes_prefix_of_lower hrest⟩
    · obtain ⟨hfront, hrest⟩ := @eq_and_eq_of_append_cons ':' _ _ "https".toList ('/' :: '/' :: tail)
        hvalue hnocolon (by decide)
      exact .inl ⟨.inr hfront, slashes_prefix_of_lower hrest⟩
    · obtain ⟨hfront, -⟩ := @eq_and_eq_of_append_cons ':' _ _ "mailto".toList tail hvalue hnocolon
        (by decide)
      exact .inr (.inl hfront)
    · obtain ⟨hfront, -⟩ := @eq_and_eq_of_append_cons ':' _ _ "tel".toList tail hvalue hnocolon
        (by decide)
      exact .inr (.inr hfront)

/-- An allowed value of an attribute that names an address is a safe link. -/
theorem isSafeLink_of_allow {target : Restricted} (hlink : target.isLink = true)
    {raw value : String} (h : target.allow raw = some value) : IsSafeLink value.toList := by
  obtain ⟨cs, hcs, rfl⟩ := Option.map_eq_some_iff.mp h
  rw [String.toList_ofList]
  cases target with
  | href => exact isSafeLink_of_allowLink hcs
  | src => exact isSafeLink_of_allowLink hcs
  | bgImage => exact isSafeLink_of_allowLink hcs
  | _ => exact absurd hlink (by decide)

end Restricted

end PageMarkup
