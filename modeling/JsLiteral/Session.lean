import JsLiteral.Conversion

/-!
# Sessions

A session keeps one converter and the world, and changes them step by step. A step that
fails changes neither the marker nor the settings, and a conversion leaves both alone.
-/

namespace JsLiteral

/-- A session: the marker of its converter, if one was accepted, and the world. -/
structure Session where
  marker : Option Marker := none
  world : World := {}

/-- What a session is asked. -/
inductive Request (σ : Type) where
  /-- A new converter. -/
  | renew (marker : Text)
  | setMarker (marker : Text)
  | getMarker
  | convert (options : Options σ) (value : Value)
  /-- Sets a variable, or removes it. -/
  | store (name : Variable) (value : Option Text)
  | readSetting (setting : Variable)
  | assignSetting (setting : Variable) (value : Value)
  /-- The command line of a formatter program. -/
  | command (program : External)

inductive Reply where
  | marker (t : Text)
  | converted (c : Conversion)
  | nothing
  | flag (b : Bool)
  | words (ws : Option (List Text))
  | seconds (x : Option Binary64)
  | settings (s : Settings)
deriving Repr, Inhabited

namespace Session

/-- A session without a converter is asked for one. -/
def noConverter : Failure := .raised .runtime "no converter"

variable {σ : Type}

/-- Puts the result of a change of settings into the world. -/
def withSettings (s : Session) (r : Except Failure Settings) (reply : Settings → Reply) :
    Except Failure Reply × Session :=
  match r with
  | .ok settings => (.ok (reply settings), { s with world := { s.world with settings } })
  | .error e => (.error e, s)

/-- Puts an accepted marker into the session. -/
def withMarker (s : Session) (t : Text) : Except Failure Reply × Session :=
  match Marker.ofText t with
  | .ok m => (.ok (.marker m.text), { s with marker := some m })
  | .error e => (.error e, s)

/-- One step of a session whose converters use `formatter`. -/
def step (formatter : Formatter) (s : Session) (state : σ) :
    Request σ → Except Failure Reply × Session × σ
  | .renew t => let (r, s) := s.withMarker t; (r, s, state)
  | .setMarker t =>
    if s.marker.isNone then (.error noConverter, s, state)
    else let (r, s) := s.withMarker t; (r, s, state)
  | .getMarker =>
    match s.marker with
    | some m => (.ok (.marker m.text), s, state)
    | none => (.error noConverter, s, state)
  | .convert options v =>
    match s.marker with
    | none => (.error noConverter, s, state)
    | some m =>
      let (r, world, state) := (Converter.convert ⟨m, formatter⟩ options v).run (s.world, state)
      (r.map .converted, { s with world }, state)
  | .store v (some t) =>
    let (r, s) := s.withSettings (s.world.settings.store v t) fun _ => .nothing
    (r, s, state)
  | .store v none =>
    let (r, s) := s.withSettings (.ok (s.world.settings.set v none)) fun _ => .nothing
    (r, s, state)
  | .readSetting .backticks => (.ok (.flag s.world.settings.allowsBackticks), s, state)
  | .readSetting .formatter => (s.world.settings.command?.map .words, s, state)
  | .readSetting .timeout => (s.world.settings.timeout?.map .seconds, s, state)
  | .assignSetting setting v =>
    let (r, s) := s.withSettings (s.world.settings.assign s.world.heap setting v) .settings
    (r, s, state)
  | .command x => ((x.resolveCommand s.world.settings).map fun ws => .words (some ws), s, state)

end Session

end JsLiteral
