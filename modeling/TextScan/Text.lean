/-!
# Text — byte offsets

A text is a list of characters.  Its offsets count the bytes of its UTF-8 form, so an offset is
meaningful only at a boundary between two characters.

* `Text.cut?` splits a text at a byte offset; it is `some` exactly at the boundaries
  (`Text.cut?_eq_some_iff`).
* `Text.before?`, `Text.after?` and `Text.slice?` are the parts of a text that offsets select; each
  is `some` exactly when the text splits there (`Text.slice?_eq_some_iff`).
-/

namespace TextScan

/-- A text: its characters in order. -/
abbrev Text := List Char

namespace Text

/-- The number of bytes of the UTF-8 form. -/
def byteSize : Text → Nat
  | [] => 0
  | c :: t => c.utf8Size + byteSize t

/-- The parts of a text before and after a byte offset; `none` when the offset lies past the end
or inside a character. -/
def cut? : Text → Nat → Option (Text × Text)
  | t, 0 => some ([], t)
  | [], _ + 1 => none
  | c :: t, n + 1 =>
    if c.utf8Size ≤ n + 1 then
      (cut? t (n + 1 - c.utf8Size)).map fun parts => (c :: parts.1, parts.2)
    else
      none

/-- The text up to a byte offset. -/
def before? (t : Text) (offset : Nat) : Option Text :=
  (t.cut? offset).map Prod.fst

/-- The text from a byte offset on. -/
def after? (t : Text) (offset : Nat) : Option Text :=
  (t.cut? offset).map Prod.snd

/-- The text between two byte offsets; `none` when one of them is no boundary or they are in the
wrong order. -/
def slice? (t : Text) (start stop : Nat) : Option Text :=
  (t.before? stop).bind fun u => after? u start

/-- An offset is a boundary when the text can be cut there. -/
def isBoundary (t : Text) (offset : Nat) : Bool :=
  (t.cut? offset).isSome

/-! ### Laws of the byte size -/

@[simp] theorem byteSize_nil : byteSize [] = 0 := rfl

@[simp] theorem byteSize_cons (c : Char) (t : Text) :
    byteSize (c :: t) = c.utf8Size + byteSize t := rfl

@[simp] theorem byteSize_append (t u : Text) : byteSize (t ++ u) = byteSize t + byteSize u := by
  induction t with
  | nil => simp
  | cons c t ih => simp [ih, Nat.add_assoc]

theorem byteSize_eq_zero_iff {t : Text} : byteSize t = 0 ↔ t = [] := by
  cases t with
  | nil => simp
  | cons c t =>
    have := c.utf8Size_pos
    simp
    omega

theorem byteSize_pos {t : Text} (h : t ≠ []) : 0 < byteSize t :=
  Nat.pos_of_ne_zero (mt byteSize_eq_zero_iff.1 h)

/-! ### Laws of the cut -/

@[simp] theorem cut?_zero (t : Text) : t.cut? 0 = some ([], t) := by
  unfold cut?
  rfl

/-- A cut at the end of a first part gives back the two parts. -/
theorem cut?_append (u v : Text) : cut? (u ++ v) (byteSize u) = some (u, v) := by
  induction u with
  | nil => simp
  | cons c u ih =>
    have := c.utf8Size_pos
    obtain ⟨n, hn⟩ : ∃ n, c.utf8Size + byteSize u = n + 1 := ⟨c.utf8Size + byteSize u - 1, by omega⟩
    have hle : c.utf8Size ≤ n + 1 := by omega
    have hrest : n + 1 - c.utf8Size = byteSize u := by omega
    rw [List.cons_append, byteSize_cons, hn, cut?, if_pos hle, hrest, ih]
    rfl

/-- **A cut splits the text.**  The two parts are the text, and the first has as many bytes as the
offset says. -/
theorem cut?_eq_some_iff {t u v : Text} {n : Nat} :
    t.cut? n = some (u, v) ↔ t = u ++ v ∧ byteSize u = n := by
  constructor
  · intro h
    induction t generalizing n u v with
    | nil =>
      cases n with
      | zero => simp at h; simp [h]
      | succ n => simp [cut?] at h
    | cons c t ih =>
      cases n with
      | zero => simp at h; simp [h]
      | succ n =>
        rw [cut?] at h
        split at h
        · rename_i hle
          obtain ⟨⟨u', v'⟩, hcut, heq⟩ := Option.map_eq_some_iff.1 h
          obtain ⟨rfl, rfl⟩ := Prod.mk.inj heq
          obtain ⟨rfl, hsize⟩ := ih hcut
          refine ⟨rfl, ?_⟩
          simp only [byteSize_cons]
          omega
        · cases h
  · rintro ⟨rfl, rfl⟩
    exact cut?_append u v

/-- Of two cuts of a text, the later one cuts the second part of the other. -/
theorem exists_append_of_byteSize_le {u v x w : Text} (h : u ++ v = x ++ w)
    (hle : byteSize u ≤ byteSize x) : ∃ m, x = u ++ m ∧ v = m ++ w := by
  rcases List.append_eq_append_iff.1 h with ⟨m, hx, hv⟩ | ⟨m, hu, hw⟩
  · exact ⟨m, hx, hv⟩
  · have hm : byteSize m = 0 := by
      rw [hu, byteSize_append] at hle
      omega
    obtain rfl := byteSize_eq_zero_iff.1 hm
    exact ⟨[], by simpa using hu.symm, by simpa using hw.symm⟩

/-! ### Laws of the parts -/

theorem before?_eq_some_iff {t u : Text} {n : Nat} :
    t.before? n = some u ↔ ∃ v, t = u ++ v ∧ byteSize u = n := by
  constructor
  · intro h
    obtain ⟨⟨u', v⟩, hcut, rfl⟩ := Option.map_eq_some_iff.1 h
    exact ⟨v, cut?_eq_some_iff.1 hcut⟩
  · rintro ⟨v, h⟩
    exact Option.map_eq_some_iff.2 ⟨(u, v), cut?_eq_some_iff.2 h, rfl⟩

theorem after?_eq_some_iff {t v : Text} {n : Nat} :
    t.after? n = some v ↔ ∃ u, t = u ++ v ∧ byteSize u = n := by
  constructor
  · intro h
    obtain ⟨⟨u, v'⟩, hcut, rfl⟩ := Option.map_eq_some_iff.1 h
    exact ⟨u, cut?_eq_some_iff.1 hcut⟩
  · rintro ⟨u, h⟩
    exact Option.map_eq_some_iff.2 ⟨(u, v), cut?_eq_some_iff.2 h, rfl⟩

/-- **A slice stands between two parts of the text**, which end and start at its offsets. -/
theorem slice?_eq_some_iff {t m : Text} {start stop : Nat} :
    t.slice? start stop = some m ↔
      ∃ u v, t = u ++ m ++ v ∧ byteSize u = start ∧ start + byteSize m = stop := by
  constructor
  · intro h
    obtain ⟨w, hbefore, hafter⟩ := Option.bind_eq_some_iff.1 h
    obtain ⟨v, rfl, rfl⟩ := before?_eq_some_iff.1 hbefore
    obtain ⟨u, rfl, rfl⟩ := after?_eq_some_iff.1 hafter
    exact ⟨u, v, rfl, rfl, (byteSize_append u m).symm⟩
  · rintro ⟨u, v, rfl, rfl, rfl⟩
    refine Option.bind_eq_some_iff.2 ⟨u ++ m, ?_, ?_⟩
    · exact before?_eq_some_iff.2 ⟨v, rfl, byteSize_append u m⟩
    · exact after?_eq_some_iff.2 ⟨u, rfl, rfl⟩

theorem isBoundary_iff {t : Text} {n : Nat} :
    t.isBoundary n = true ↔ ∃ u v, t = u ++ v ∧ byteSize u = n := by
  unfold isBoundary
  rw [Option.isSome_iff_exists]
  constructor
  · rintro ⟨⟨u, v⟩, hcut⟩
    exact ⟨u, v, cut?_eq_some_iff.1 hcut⟩
  · rintro ⟨u, v, h⟩
    exact ⟨(u, v), cut?_eq_some_iff.2 h⟩

/-! ### Behind a first part -/

/-- A cut behind a first part is a cut of the second. -/
theorem cut?_append_add (u v : Text) (n : Nat) :
    cut? (u ++ v) (byteSize u + n) = (cut? v n).map fun parts => (u ++ parts.1, parts.2) := by
  refine Option.ext fun parts => ?_
  rw [Option.map_eq_some_iff]
  constructor
  · intro h
    obtain ⟨happ, hsize⟩ := cut?_eq_some_iff.1 h
    obtain ⟨m, hm, rfl⟩ := exists_append_of_byteSize_le happ (by omega)
    refine ⟨(m, parts.2), cut?_eq_some_iff.2 ⟨rfl, ?_⟩, Prod.ext hm.symm rfl⟩
    rw [hm, byteSize_append] at hsize
    omega
  · rintro ⟨⟨m, w⟩, hcut, rfl⟩
    obtain ⟨rfl, rfl⟩ := cut?_eq_some_iff.1 hcut
    exact cut?_eq_some_iff.2 ⟨(List.append_assoc u m w).symm, byteSize_append u m⟩

theorem before?_append_add (u v : Text) (n : Nat) :
    before? (u ++ v) (byteSize u + n) = (before? v n).map (u ++ ·) := by
  rw [before?, cut?_append_add, before?, Option.map_map, Option.map_map]
  rfl

theorem after?_append_add (u v : Text) (n : Nat) :
    after? (u ++ v) (byteSize u + n) = after? v n := by
  rw [after?, cut?_append_add, after?, Option.map_map]
  rfl

/-- A slice behind a first part is a slice of the second. -/
theorem slice?_append_add (u v : Text) (start stop : Nat) :
    slice? (u ++ v) (byteSize u + start) (byteSize u + stop) = slice? v start stop := by
  rw [slice?, before?_append_add, slice?, Option.bind_map]
  exact congrArg (Option.bind (before? v stop)) (funext fun w => after?_append_add u w start)

end Text

end TextScan
