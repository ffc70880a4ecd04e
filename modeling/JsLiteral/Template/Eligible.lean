import JsLiteral.Text.Blank

/-!
# Texts fit for a template literal

A text becomes a template literal of several lines only if stripping the literal's
indentation gives the text back: it has more than one line, starts and ends with a code
point that is no blank, and holds nothing that a raw template changes.
-/

namespace JsLiteral.Template

/-- Code points that a raw template body cannot hold: the dollar sign, the backslash, line
ends other than the line feed, and lone surrogates. -/
def isForbidden (c : CodePoint) : Bool :=
  c == '$' || c == '\\' || c == '\r' || c.toNat == 0x2028 || c.toNat == 0x2029 || c.isSurrogate

/-- Whether a text can stand as a template literal. -/
def isEligible (allowBackticks : Bool) (t : Text) : Bool :=
  t.contains Text.newline
    && (allowBackticks || !t.contains '\x60')
    && !t.any isForbidden
    && t.head?.any (fun c => !c.isScriptBlank)
    && t.getLast?.any (fun c => !c.isScriptBlank)

theorem isEligible_mono {t : Text} (h : isEligible false t = true) : isEligible true t = true := by
  simp only [isEligible, Bool.and_eq_true, Bool.or_eq_true] at h ⊢
  obtain ⟨⟨⟨⟨h1, _⟩, h3⟩, h4⟩, h5⟩ := h
  exact ⟨⟨⟨⟨h1, Or.inl trivial⟩, h3⟩, h4⟩, h5⟩

end JsLiteral.Template
