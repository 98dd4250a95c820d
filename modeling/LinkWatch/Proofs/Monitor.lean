import LinkWatch.Monitor
import Mathlib.Tactic.Common

/-! # What the operations of the monitor do -/

namespace LinkWatch.Monitor

/-! ## Events of other sessions -/

theorem data_stranger {m : Monitor} {id : SessionId} (h : ∀ s ∈ m.session, s.id ≠ id)
    (bytes : List UInt8) : m.data id bytes = pure m := by
  unfold data
  cases hs : m.session with
  | none => rfl
  | some s => exact if_neg (h s hs)

theorem disconnected_stranger {m : Monitor} {id : SessionId} (h : ∀ s ∈ m.session, s.id ≠ id)
    (closing : Closing) : m.disconnected id closing = pure m := by
  unfold disconnected
  cases hs : m.session with
  | none => rfl
  | some s => exact if_neg (h s hs)

/-! ## Events of the session -/

theorem data_own {m : Monitor} {s : Session} (h : m.session = some s) (bytes : List UInt8) :
    m.data s.id bytes =
      ⟨{ m with session := some { s with bytes := s.bytes + bytes.length } },
        [.logged ⟨.debug, s.endpoint.display ++ ": " ++ Text.decimal bytes.length ++
          " bytes (total " ++ Text.decimal (s.bytes + bytes.length) ++ ")"⟩]⟩ := by
  simp [data, h, note, bind, pure]

/-- What is logged while a session is closed. -/
def closingRecords (s : Session) (closing : Closing) : List Record :=
  (match closing.close with
    | .error failure => [⟨.debug, "Close failed: " ++ failure.text⟩]
    | .ok () => []) ++
  if closing.intake = .crashed then
    [⟨.warn, "Reader thread for " ++ s.endpoint.display ++ " panicked"⟩]
  else []

theorem notes_closeSession (s : Session) (closing : Closing) :
    (closeSession s closing).notes = .closed s.id :: (closingRecords s closing).map .logged := by
  obtain ⟨close, intake⟩ := closing
  cases close with
  | error failure =>
    cases intake with
    | orderly => rfl
    | crashed => rfl
  | ok done =>
    cases intake with
    | orderly => rfl
    | crashed => rfl

theorem disconnected_own {m : Monitor} {s : Session} (h : m.session = some s) (closing : Closing) :
    m.disconnected s.id closing =
      ⟨{ m with session := none },
        .logged ⟨.warn, "Disconnected from " ++ s.endpoint.display ++ " after " ++
          Text.decimal s.bytes ++ " bytes"⟩ ::
          .closed s.id :: (closingRecords s closing).map .logged⟩ := by
  simp [disconnected, h, ← notes_closeSession, note, bind, pure]

theorem shutdown_own {m : Monitor} {s : Session} (h : m.session = some s) (closing : Closing) :
    m.shutdown closing =
      ⟨{ m with session := none },
        .logged ⟨.info, "Closing " ++ s.endpoint.display⟩ ::
          .closed s.id :: (closingRecords s closing).map .logged⟩ := by
  simp [shutdown, h, ← notes_closeSession, note, bind, pure]

theorem shutdown_idle {m : Monitor} (h : m.session = none) (closing : Closing) :
    m.shutdown closing = pure m := by
  simp [shutdown, h]

/-! ## Attempts -/

/-- Opening the channel that an attempt asks for. -/
def opening (m : Monitor) (endpoint : Endpoint) (attempt : Attempt) :
    Logged (Except LinkError Link) :=
  attempt.host.open m.settings.opening endpoint

/-- What is noted until the channel is open or has been refused. -/
def openingNotes (m : Monitor) (endpoint : Endpoint) (attempt : Attempt) : List MonitorNote :=
  .attempted endpoint :: (m.opening endpoint attempt).notes.map .logged

/-- One constructor for each way that an attempt to connect can go. -/
inductive Connect (m : Monitor) (attempt : Attempt) :
    List MonitorNote → Except ConnectError Unit → Monitor → Prop
  | idle (why : m.session.isSome ∨ m.available = none) : Connect m attempt [] (.ok ()) m
  | unopened (endpoint : Endpoint) (e : LinkError) (free : m.session = none)
    (there : m.available = some endpoint) (refused : (m.opening endpoint attempt).value = .error e) :
    Connect m attempt (m.openingNotes endpoint attempt) (.error (.opening endpoint e)) m
  | uncloned (endpoint : Endpoint) (link : Link) (failure : IoFailure) (free : m.session = none)
    (there : m.available = some endpoint) (opened : (m.opening endpoint attempt).value = .ok link)
    (refused : attempt.cloning = .error failure) :
    Connect m attempt (m.openingNotes endpoint attempt) (.error (.channel failure)) m
  | unstarted (endpoint : Endpoint) (link : Link) (failure : IoFailure) (free : m.session = none)
    (there : m.available = some endpoint) (opened : (m.opening endpoint attempt).value = .ok link)
    (cloned : attempt.cloning = .ok ()) (refused : attempt.starting = .error failure) :
    Connect m attempt (m.openingNotes endpoint attempt) (.error (.channel failure))
      { m with lastId := m.lastId + 1 }
  | connected (endpoint : Endpoint) (link : Link) (free : m.session = none)
    (there : m.available = some endpoint) (opened : (m.opening endpoint attempt).value = .ok link)
    (cloned : attempt.cloning = .ok ()) (started : attempt.starting = .ok ()) :
    Connect m attempt
      (m.openingNotes endpoint attempt ++ [.opened (m.lastId + 1) endpoint,
        .logged ⟨.info, "Connected to " ++ endpoint.display⟩])
      (.ok ())
      { m with lastId := m.lastId + 1, session := some ⟨m.lastId + 1, endpoint, 0⟩ }

theorem connectTo_spec {m : Monitor} {endpoint : Endpoint} (attempt : Attempt)
    (free : m.session = none) (there : m.available = some endpoint) :
    Connect m attempt (m.connectTo endpoint attempt).notes (m.connectTo endpoint attempt).value.1
      (m.connectTo endpoint attempt).value.2 := by
  unfold connectTo
  cases hopen : attempt.host.open m.settings.opening endpoint with
  | mk result records =>
    have hopening : m.opening endpoint attempt = ⟨result, records⟩ := hopen
    cases result with
    | error e =>
      have hrefused : (m.opening endpoint attempt).value = .error e := by rw [hopening]
      simpa [openingNotes, hopening, note] using
        Connect.unopened endpoint e free there hrefused
    | ok link =>
      have hopened : (m.opening endpoint attempt).value = .ok link := by rw [hopening]
      cases hclone : attempt.cloning with
      | error failure =>
        simpa [openingNotes, hopening, note] using
          Connect.uncloned endpoint link failure free there hopened hclone
      | ok cloned =>
        cases hstart : attempt.starting with
        | error failure =>
          simpa [openingNotes, hopening, note] using
            Connect.unstarted endpoint link failure free there hopened hclone hstart
        | ok started =>
          simpa [openingNotes, hopening, note] using
            Connect.connected endpoint link free there hopened hclone hstart

theorem connect_spec (m : Monitor) (attempt : Attempt) :
    Connect m attempt (m.connect attempt).notes (m.connect attempt).value.1
      (m.connect attempt).value.2 := by
  unfold connect
  cases hs : m.session with
  | some s => exact .idle (Or.inl (by rw [hs]; rfl))
  | none =>
    cases ha : m.available with
    | none => exact .idle (Or.inr ha)
    | some endpoint => exact connectTo_spec attempt hs ha

end LinkWatch.Monitor
