import LinkWatch.Json.Printer
import LinkWatch.Proofs.Json.Decoder

/-! # What is written in any layout is read back -/

namespace LinkWatch.Json

open Text

variable {α σ : Type} {l : Layout} {height : Nat}

/-! ## Layouts -/

/-- A layout puts nothing but blanks between the tokens. -/
structure Layout.Blank (l : Layout) : Prop where
  lineBreak : ∀ level, Spaces (l.lineBreak level)
  afterColon : Spaces l.afterColon

theorem compact_blank : compact.Blank := ⟨fun _ => spaces_nil, spaces_nil⟩

theorem indented_blank : indented.Blank := by
  refine ⟨fun level c hc => ?_, fun c hc => ?_⟩
  · rcases List.mem_cons.mp hc with rfl | hc
    · rfl
    · rw [(List.mem_replicate.mp hc).2]
      rfl
  · rw [List.mem_singleton.mp hc]
    rfl

/-- The decoder reads the written value in any layout. -/
def Writes (decode : Decoder α) (height : Nat) (v : Value) (a : α) : Prop :=
  ∀ l : Layout, l.Blank → ∀ level, Reads decode height (v.write l level) a

theorem Writes.mono {decode : Decoder α} {low high : Nat} {v : Value} {a : α}
    (h : Writes decode low v a) (hle : low ≤ high) : Writes decode high v a :=
  fun l hl level => (h l hl level).mono hle

theorem write_starts (l : Layout) (level : Nat) (v : Value) :
    ∃ c cs, v.write l level = c :: cs ∧ Starts c := by
  cases v with
  | null => exact ⟨_, _, rfl, by decide, by decide⟩
  | bool b =>
    cases b with
    | true => exact ⟨_, _, rfl, by decide, by decide⟩
    | false => exact ⟨_, _, rfl, by decide, by decide⟩
  | natural n =>
    have hdigits := all_isDigit_toDigits n
    rw [Value.write]
    cases hcs : Nat.toDigits 10 n with
    | nil => exact absurd hcs Nat.toDigits_ne_nil
    | cons c cs =>
      rw [hcs] at hdigits
      have hc := List.all_eq_true.mp hdigits c List.mem_cons_self
      refine ⟨c, cs, rfl, isSpace_of_isDigit hc, ?_⟩
      rintro rfl
      exact absurd hc (by decide)
  | string s => exact ⟨_, _, rfl, by decide, by decide⟩
  | list items =>
    cases items with
    | nil => exact ⟨_, _, rfl, by decide, by decide⟩
    | cons v vs =>
      rw [Value.write]
      exact ⟨_, _, rfl, by decide, by decide⟩
  | object members =>
    cases members with
    | nil => exact ⟨_, _, rfl, by decide, by decide⟩
    | cons m ms =>
      rw [Value.write]
      exact ⟨_, _, rfl, by decide, by decide⟩

/-! ## Scalars -/

theorem writes_bool (b : Bool) : Writes boolean 0 (.bool b) b := by
  intro l _ level
  cases b with
  | true => exact reads_true
  | false => exact reads_false

theorem writes_natural {limit n : Nat} (expected : String) (hn : n ≤ limit)
    (hlimit : limit < significandLimit) : Writes (natural limit expected) 0 (.natural n) n :=
  fun _ _ _ => reads_natural expected hn hlimit

theorem writes_text (expected s : String) : Writes (textOf expected) 0 (.string s) s :=
  fun _ _ _ => reads_text expected s

theorem writes_optional (s : Option String) : Writes (optional text) 0 (.optional s) s := by
  intro l _ level
  cases s with
  | none => exact reads_null text
  | some s => exact reads_some (reads_text "a string" s) (by decide) (by decide)

/-! ## Lists -/

theorem items_writeItems {decode : Decoder α} {write : α → Value} {as : List α} {depth : Nat}
    (h : ∀ a ∈ as, Writes decode height (write a) a) (hl : l.Blank) (hdepth : height < depth)
    (level last : Nat) :
    Items (decode depth) false (Value.writeItems l level (as.map write) ++ l.lineBreak last) as := by
  induction as with
  | nil => exact .done (hl.lineBreak last)
  | cons a as ih =>
    obtain ⟨c, cs, hwrite, hc⟩ := write_starts l level (write a)
    have hread := h a List.mem_cons_self l hl level
    rw [hwrite] at hread
    have htail := ih fun b hb => h b (List.mem_cons_of_mem a hb)
    have hmore := Items.more (.next spaces_nil (hl.lineBreak level)) hc
      (fun rest hrest => hread depth [] rest hdepth spaces_nil hrest) htail
    rw [List.map_cons, Value.writeItems, hwrite]
    simpa using hmore

theorem writes_list {decode : Decoder α} {write : α → Value} {as : List α}
    (h : ∀ a ∈ as, Writes decode height (write a) a) :
    Writes (list decode) (height + 1) (.list (as.map write)) as := by
  intro l hl level
  cases as with
  | nil => exact reads_list fun _ _ => .done spaces_nil
  | cons a as =>
    obtain ⟨c, cs, hwrite, hc⟩ := write_starts l (level + 1) (write a)
    have hread := h a List.mem_cons_self l hl (level + 1)
    rw [hwrite] at hread
    rw [List.map_cons, Value.write, hwrite]
    have hitems : ∀ depth, height < depth → Items (decode depth) true
        (l.lineBreak (level + 1) ++ (c :: cs ++
          (Value.writeItems l (level + 1) (as.map write) ++ l.lineBreak level))) (a :: as) :=
      fun depth hdepth => .more (.first (hl.lineBreak (level + 1))) hc
        (fun rest hrest => hread depth [] rest hdepth spaces_nil hrest)
        (items_writeItems (fun b hb => h b (List.mem_cons_of_mem a hb)) hl hdepth _ _)
    simpa using reads_list hitems

/-! ## Objects -/

/-- The members, as they are written, take the state to another one. -/
inductive Takes (step : Nat → σ → String → List Char → Except Fault (σ × List Char))
    (height : Nat) : σ → List (String × Value) → σ → Prop
  | nil (s : σ) : Takes step height s [] s
  | cons {key : String} {v : Value} {ms : List (String × Value)} {s₁ s₂ s₃ : σ}
    (steps : ∀ l : Layout, l.Blank → ∀ level depth rest, height < depth → Ends rest →
      step depth s₁ key (':' :: (l.afterColon ++ (v.write l level ++ rest))) = .ok (s₂, rest))
    (takes : Takes step height s₂ ms s₃) : Takes step height s₁ ((key, v) :: ms) s₃

variable {step : Nat → σ → String → List Char → Except Fault (σ × List Char)}

theorem quotes_written (s : String) : Quotes (s.toList.flatMap escaped ++ ['"']) s := by
  intro rest
  rw [List.append_assoc]
  exact string_written s rest

theorem Takes.members {s t : σ} {ms : List (String × Value)} {depth : Nat}
    (h : Takes step height s ms t) (hl : l.Blank) (hdepth : height < depth) (level last : Nat) :
    Members (step depth) false s (Value.writeMembers l level ms ++ l.lineBreak last) t := by
  induction h with
  | nil s => exact .done s (hl.lineBreak last)
  | cons steps takes ih =>
    rename_i key v ms s₁ s₂ s₃
    have hsteps : ∀ rest, Ends rest →
        step depth s₁ key (':' :: (l.afterColon ++ v.write l level) ++ rest) = .ok (s₂, rest) := by
      intro rest hrest
      simpa using steps l hl level depth rest hdepth hrest
    have hmore := Members.more (.next spaces_nil (hl.lineBreak level)) (quotes_written key) hsteps ih
    rw [Value.writeMembers, writeString]
    simpa using hmore

theorem Takes.object {s t : σ} {ms : List (String × Value)} (h : Takes step height s ms t)
    (hl : l.Blank) (level : Nat) :
    ∃ body, (Value.object ms).write l level = '\x7b' :: (body ++ ['\x7d']) ∧
      ∀ depth, height < depth → Members (step depth) true s body t := by
  cases h with
  | nil => exact ⟨[], rfl, fun _ _ => .done s spaces_nil⟩
  | cons steps takes =>
    rename_i key v ms s₂
    refine ⟨l.lineBreak (level + 1) ++ ('"' :: (key.toList.flatMap escaped ++ ['"']) ++
      (':' :: (l.afterColon ++ v.write l (level + 1)) ++
        (Value.writeMembers l (level + 1) ms ++ l.lineBreak level))), ?_, fun depth hdepth => ?_⟩
    · rw [Value.write, writeString]
      simp
    · exact .more (.first (hl.lineBreak (level + 1))) (quotes_written key)
        (fun rest hrest => by simpa using steps l hl (level + 1) depth rest hdepth hrest)
        (takes.members hl hdepth _ _)

theorem writes_form {form : Form σ} {ms : List (String × Value)} {s : σ} {seen : List String}
    (h : Takes form.member height (form.initial, []) ms (s, seen))
    (hfinish : form.complete = true → form.missing? seen = none) :
    Writes form.decode (height + 1) (.object ms) s := by
  intro l hl level
  obtain ⟨body, hwrite, hmembers⟩ := h.object hl level
  rw [hwrite]
  exact reads_form hmembers hfinish

theorem Takes.field {form : Form σ} {key : String} {decode : Decoder α} {put : σ → α → σ}
    {v : Value} {a : α} {ms : List (String × Value)} {s : σ} {seen : List String}
    {t : σ × List String} (hfield : form.field? key = some (.of key decode put))
    (hseen : key ∉ seen) (hv : Writes decode height v a)
    (htail : Takes form.member height (put s a, key :: seen) ms t) :
    Takes form.member height (s, seen) ((key, v) :: ms) t := by
  refine .cons (fun l hl level depth rest hdepth hrest => ?_) htail
  refine member_known hfield hseen spaces_nil ?_
  show (decode depth _).map _ = _
  rw [hv l hl level depth l.afterColon rest hdepth hl.afterColon hrest]
  rfl

theorem takes_end {form : Form σ} {s t : σ} (h : s = t) (seen : List String) :
    Takes form.member height (s, seen) [] (t, seen) := by
  rw [h]
  exact .nil _

end LinkWatch.Json
