import LinkWatch.Proofs.Settings.Partial

/-! # Numbers are taken as they are written, or not at all -/

namespace LinkWatch

open Json

namespace Settings

/-- The fields that hold a number. -/
inductive Quantity where
  | pollMillis
  | probeMillis
  | simulator
  | baud
  | timeoutMillis
  | bufferSize
  deriving DecidableEq, Repr

namespace Quantity

/-- The key of the group that the field is in. -/
def group : Quantity → String
  | pollMillis | probeMillis | simulator => "scanner"
  | baud | timeoutMillis => "transport"
  | bufferSize => "reader"

def keys : Quantity → List String
  | pollMillis | probeMillis | simulator => ScanSettings.form.keys
  | baud | timeoutMillis => OpenSettings.form.keys
  | bufferSize => DrainSettings.form.keys

def key : Quantity → String
  | pollMillis => "poll_interval_ms"
  | probeMillis => "probe_timeout_ms"
  | simulator => "simulator_port"
  | baud => "baud_rate"
  | timeoutMillis => "timeout_ms"
  | bufferSize => "buffer_size"

def limit : Quantity → Nat
  | simulator => 0xffff
  | baud => 0xffffffff
  | _ => 0xffffffffffffffff

def get : Quantity → Settings → Nat
  | pollMillis, s => s.scan.pollMillis.toNat
  | probeMillis, s => s.scan.probeMillis.toNat
  | simulator, s => s.scan.simulator.toNat
  | baud, s => s.opening.baud.toNat
  | timeoutMillis, s => s.opening.timeoutMillis.toNat
  | bufferSize, s => s.drain.bufferSize.toNat

def set : Quantity → Nat → Settings → Settings
  | pollMillis, n, s => { s with scan := { s.scan with pollMillis := .ofNat n } }
  | probeMillis, n, s => { s with scan := { s.scan with probeMillis := .ofNat n } }
  | simulator, n, s => { s with scan := { s.scan with simulator := .ofNat n } }
  | baud, n, s => { s with opening := { s.opening with baud := .ofNat n } }
  | timeoutMillis, n, s => { s with opening := { s.opening with timeoutMillis := .ofNat n } }
  | bufferSize, n, s => { s with drain := { s.drain with bufferSize := .ofNat n } }

theorem get_set (x : Quantity) {n : Nat} (hn : n ≤ x.limit) (s : Settings) :
    x.get (x.set n s) = n := by
  cases x with
  | simulator => exact UInt16.toNat_ofNat_of_lt (Nat.lt_succ_of_le hn)
  | baud => exact UInt32.toNat_ofNat_of_lt (Nat.lt_succ_of_le hn)
  | pollMillis | probeMillis | timeoutMillis | bufferSize =>
    exact UInt64.toNat_ofNat_of_lt (Nat.lt_succ_of_le hn)

end Quantity

/-! ## The field depends on its number only -/

theorem nested_view {σ : Type} {o : Outline σ} (ho : o.Lawful) {group key : String}
    {putGroup : Settings → σ → Settings} {view : Tree → Option Nat} {put : σ → Nat → σ}
    (hgroup : Column.of group o.ofTree putGroup ∈ outline.columns)
    (hcolumn : Column.of key view put ∈ o.columns) {outer inner : Tree → Tree}
    (houter : Slot form.keys group outer) (hinner : Slot o.names key inner)
    {set : Nat → Settings → Settings}
    (hset : ∀ s t m n, set n (putGroup s (put t m)) = putGroup s (put t n)) {w : Tree} {m : Nat}
    (hw : view w = some m) (v : Tree) :
    ofTree (outer (inner v)) = (view v).bind fun n => (ofTree (outer (inner w))).map (set n) := by
  obtain ⟨s, hs⟩ := houter.ofTree outline_lawful hgroup
  obtain ⟨t, ht⟩ := hinner.ofTree ho hcolumn
  have hs : ∀ v, ofTree (outer v) = s.bind fun s => (o.ofTree v).map (putGroup s) := hs
  have ht : ∀ v, o.ofTree (inner v) = t.bind fun t => (view v).map (put t) := ht
  rw [hs, hs, ht, ht, hw]
  cases s with
  | none => simp
  | some s =>
    cases t with
    | none => simp
    | some t =>
      cases view v with
      | none => rfl
      | some n => simp [hset]

theorem Quantity.ofTree (x : Quantity) {outer inner : Tree → Tree}
    (houter : Slot form.keys x.group outer) (hinner : Slot x.keys x.key inner) (v : Tree) :
    ofTree (outer (inner v)) = (v.natural? x.limit).bind fun n =>
      (ofTree (outer (inner (.number ['0'])))).map (x.set n) := by
  cases x with
  | pollMillis =>
    exact nested_view ScanSettings.outline_lawful mem_scan (.head _) houter hinner
      (fun _ _ _ _ => rfl) rfl v
  | simulator =>
    exact nested_view ScanSettings.outline_lawful mem_scan (.tail _ (.tail _ (.tail _ (.head _))))
      houter hinner (fun _ _ _ _ => rfl) rfl v
  | probeMillis =>
    exact nested_view ScanSettings.outline_lawful mem_scan
      (.tail _ (.tail _ (.tail _ (.tail _ (.head _))))) houter hinner (fun _ _ _ _ => rfl) rfl v
  | baud =>
    exact nested_view OpenSettings.outline_lawful mem_opening (.head _) houter hinner
      (fun _ _ _ _ => rfl) rfl v
  | timeoutMillis =>
    exact nested_view OpenSettings.outline_lawful mem_opening (.tail _ (.head _)) houter hinner
      (fun _ _ _ _ => rfl) rfl v
  | bufferSize =>
    exact nested_view DrainSettings.outline_lawful mem_drain (.head _) houter hinner
      (fun _ _ _ _ => rfl) rfl v

/-! ## Literals -/

theorem isDigit_all {literal : List Char} (h : Numeral literal) :
    literal.all Char.isDigit = true ↔ Integer literal := by
  constructor
  · intro hall
    cases h with
    | unsigned integer fraction exponent =>
      cases fraction with
      | digits => simp at hall
      | absent =>
        cases exponent with
        | digits letter => rcases letter with rfl | rfl <;> simp at hall
        | absent => simpa using integer
    | negative => simp at hall
  · intro hinteger
    exact List.all_eq_true.mpr hinteger.digits.2

/-- A literal is taken if it is the decimal form of a number that the field can hold: without a
sign, a fraction or an exponent, and without zeros in front. -/
def Quantity.Takes (x : Quantity) (literal : List Char) : Prop :=
  Integer literal ∧ Nat.ofDigitChars 10 literal 0 ≤ x.limit

theorem natural?_numeral {literal : List Char} (h : Numeral literal) (x : Quantity) {n : Nat} :
    (Tree.number literal).natural? x.limit = some n ↔
      x.Takes literal ∧ Nat.ofDigitChars 10 literal 0 = n := by
  simp only [Tree.natural?, isDigit_all h, Quantity.Takes, Option.ite_none_right_eq_some,
    Option.some.injEq]

/-- What becomes of a literal in the place of a number, against the same text with a zero there. -/
structure Quantity.Exact (x : Quantity) (literal : List Char) (context : Tree → Tree)
    (text zero : String) : Prop where
  accepted : ∀ s, load (.ok text.toUTF8) = .ok s ↔ x.Takes literal ∧
    ∃ base, load (.ok zero.toUTF8) = .ok base ∧ s = x.set (Nat.ofDigitChars 10 literal 0) base
  /-- Where nothing else is wrong with the text, it is up to the literal. -/
  given : ∀ (kept : Kept) (base : Settings), base.Given kept (context (.number ['0'])) →
    ∀ s, load (.ok text.toUTF8) = .ok s ↔
      x.Takes literal ∧ s = x.set (Nat.ofDigitChars 10 literal 0) (base.only kept)
  held : ∀ s, load (.ok text.toUTF8) = .ok s → x.get s = Nat.ofDigitChars 10 literal 0
  refused : ¬ x.Takes literal → ∃ detail, load (.ok text.toUTF8) = .error (.invalid detail)

theorem numbers_are_never_changed (x : Quantity) {outer inner : Tree → Tree}
    (houter : Slot form.keys x.group outer) (hinner : Slot x.keys x.key inner)
    {literal : List Char} (hliteral : Numeral literal) {text zero : String}
    (htext : Document text (outer (inner (.number literal))))
    (hzero : Document zero (outer (inner (.number ['0'])))) :
    x.Exact literal (fun v => outer (inner v)) text zero := by
  have htree := x.ofTree houter hinner (.number literal)
  have haccepted : ∀ s, load (.ok text.toUTF8) = .ok s ↔ x.Takes literal ∧
      ∃ base, load (.ok zero.toUTF8) = .ok base ∧
        s = x.set (Nat.ofDigitChars 10 literal 0) base := by
    intro s
    rw [load_document htext, htree]
    simp only [Option.bind_eq_some_iff, Option.map_eq_some_iff, natural?_numeral hliteral,
      load_document hzero]
    constructor
    · rintro ⟨n, ⟨htakes, rfl⟩, base, hbase, rfl⟩
      exact ⟨htakes, base, hbase, rfl⟩
    · rintro ⟨htakes, base, hbase, rfl⟩
      exact ⟨_, ⟨htakes, rfl⟩, base, hbase, rfl⟩
  refine ⟨haccepted, fun kept base hgiven s => ?_, fun s hload => ?_,
    fun hnot => load_refused htext ?_⟩
  · have hload := (load_document hzero _).mpr (ofTree_given hgiven)
    rw [haccepted, hload]
    simp
  · obtain ⟨htakes, base, -, rfl⟩ := (haccepted s).mp hload
    exact x.get_set htakes.2 base
  · -- No number is seen in the literal, so that nothing is made of the rest.
    rw [htree, Option.bind_eq_none_iff]
    intro n hn
    exact absurd ((natural?_numeral hliteral x).mp hn).1 hnot

/-- A file with the number of the simulator and nothing else. -/
def simulatorOnly (n : Nat) : Value :=
  .object [("scanner", .object [("simulator_port", .natural n)])]

theorem numbers_are_never_changed_at_the_limit :
    load (.ok ((simulatorOnly 65535).render indented).toUTF8) =
        .ok { scan := { simulator := 65535 } } ∧
      ∃ detail, load (.ok ((simulatorOnly 65536).render indented).toUTF8) =
        .error (.invalid detail) := by
  have hexact : ∀ n, Quantity.simulator.Exact (Nat.toDigits 10 n) _
      ((simulatorOnly n).render indented) ((simulatorOnly 0).render indented) :=
    fun n => numbers_are_never_changed .simulator (.member [] []) (.member [] [])
      (numeral_toDigits n) ((simulatorOnly n).document indented_blank)
      ((simulatorOnly 0).document indented_blank)
  have hgiven : ({ scan := { simulator := 0 } } : Settings).Given
      ⟨(· = "scanner"), (· = "simulator_port"), fun _ => false, fun _ => false⟩
      (simulatorOnly 0).tree := by
    refine ⟨_, rfl, by decide, keeps_one rfl rfl ⟨_, rfl, by decide, ?_⟩, keeps_none rfl rfl,
      keeps_none rfl rfl, keeps_none rfl rfl⟩
    exact ⟨keeps_none rfl rfl, keeps_none rfl rfl, keeps_none rfl rfl, keeps_one rfl rfl rfl,
      keeps_none rfl rfl⟩
  refine ⟨((hexact 65535).given _ _ hgiven _).mpr
    ⟨⟨integer_toDigits 65535, by decide +kernel⟩, by decide +kernel⟩,
    (hexact 65536).refused fun htakes => ?_⟩
  exact absurd htakes.2 (by decide +kernel)

end Settings

end LinkWatch
