import PanelMenu.Toml.Document

/-! What the readers of a document leave is an end of the text that they were given: they take letters from the
front, and put none back. -/

namespace PanelMenu.Toml
variable {text rest : Letters} {value : String}

theorem dropBlanks_suffix (text : Letters) : dropBlanks text <:+ text :=
  List.dropWhile_suffix _

theorem dropNewline?_suffix (ok : dropNewline? text = some rest) : rest <:+ text := by
  cases text with
  | nil => cases ok
  | cons first behind =>
    rw [dropNewline?] at ok
    split at ok
    · obtain rfl := Option.some.inj ok
      exact List.suffix_cons _ _
    split at ok
    · obtain rfl := Option.some.inj ok
      exact (List.drop_suffix 1 behind).trans (List.suffix_cons _ _)
    · cases ok

theorem dropLineEnd?_suffix (ok : dropLineEnd? text = some rest) : rest <:+ text := by
  rw [dropLineEnd?] at ok
  split at ok
  · obtain rfl := Option.some.inj ok
    exact List.nil_suffix
  · exact dropNewline?_suffix ok

theorem dropComment_suffix (text : Letters) : dropComment text <:+ text := by
  rw [dropComment]
  split
  · exact List.dropWhile_suffix _
  · exact List.suffix_refl _

theorem dropTrailing?_suffix (ok : dropTrailing? text = some rest) : rest <:+ text :=
  (dropLineEnd?_suffix ok).trans ((dropComment_suffix _).trans (dropBlanks_suffix text))

theorem dropGap_suffix (inComment : Bool) (text : Letters) : dropGap inComment text <:+ text := by
  fun_induction dropGap inComment text with
  | case1 => exact List.suffix_refl _
  | case2 _ _ _ _ _ ih | case3 _ _ _ _ _ _ ih | case4 _ _ _ _ _ _ _ ih | case5 _ _ _ _ _ _ _ _ ih =>
    exact ih.trans (List.suffix_cons _ _)
  | case6 => exact List.suffix_refl _

theorem closeLong_suffix {quote : Char} {read : List Char} (ok : closeLong quote read text = some (value, rest)) :
    rest <:+ text := by
  rw [closeLong] at ok
  split at ok
  · cases ok
  · obtain ⟨_, rfl⟩ := Prod.mk.inj (Option.some.inj ok)
    exact List.drop_suffix _ _

theorem readLongBasic_suffix {state : LongState} {read : List Char}
    (ok : readLongBasic state read text = some (value, rest)) : rest <:+ text := by
  induction size : text.length using Nat.strongRecOn generalizing text state read with
  | ind length ih =>
    subst size
    cases text with
    | nil => cases ok
    | cons letter behind =>
      have one {state read} (later : readLongBasic state read behind = some (value, rest)) :
          rest <:+ letter :: behind :=
        (ih _ (Nat.lt_succ_self _) later rfl).trans (List.suffix_cons _ _)
      have two {state read next after} (same : behind = next :: after)
          (later : readLongBasic state read after = some (value, rest)) : rest <:+ letter :: behind := by
        subst same
        have left : after <:+ letter :: next :: after := (List.suffix_cons next after).trans (List.suffix_cons _ _)
        exact (ih _ (by simp only [List.length_cons]; omega) later rfl).trans left
      rw [readLongBasic.eq_def] at ok
      dsimp only at ok
      repeat' split at ok
      all_goals first
        | contradiction
        | exact closeLong_suffix ok
        | exact one ok
        | exact two rfl ok

theorem readLongLiteral_suffix {read : List Char} (ok : readLongLiteral read text = some (value, rest)) :
    rest <:+ text := by
  fun_induction readLongLiteral read text
  all_goals first
    | contradiction
    | exact closeLong_suffix ok
    | exact (‹_ → rest <:+ _› ok).trans (List.suffix_cons _ _)

theorem dropFirstNewline_suffix (text : Letters) : dropFirstNewline text <:+ text := by
  rw [dropFirstNewline]
  cases dropped : dropNewline? text with
  | none => exact List.suffix_refl _
  | some rest => exact dropNewline?_suffix dropped

theorem readScalar_suffix {scalar : Scalar} (ok : readScalar text = some (scalar, rest)) : rest <:+ text := by
  rw [readScalar] at ok
  split at ok
  next =>
    split at ok
    · obtain ⟨_, rfl⟩ := Prod.mk.inj (Option.some.inj ok)
      exact (List.drop_suffix _ _).trans ((List.drop_suffix 1 _).trans (List.drop_suffix _ _))
    · cases ok
  next =>
    obtain ⟨_, _, same⟩ := Option.map_eq_some_iff.mp ok
    obtain ⟨_, rfl⟩ := Prod.mk.inj same
    exact List.drop_suffix _ _

end PanelMenu.Toml
