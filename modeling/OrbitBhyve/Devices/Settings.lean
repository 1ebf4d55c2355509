import OrbitBhyve.Devices.Registers

/-!
# Settings commands

`set_rain_delay`, `clear_rain_delay`, `set_controller_mode` and `identify`. A
command is written, the state is read back with `refresh_status`, and a field
of the state is compared with what was wanted. The rain delay is put into the
state before it is read back.
-/

namespace OrbitBhyve.Devices

open Foundation Python Wire

/-- `self.state.device_clock or int(time.time())`, which is then added to. -/
def rainDelayBase (clock : Option PbVal) (now : DateTime) : Except PyErr ℤ :=
  match clock with
  | some (.int (n + 1)) => .ok ((n + 1 : ℕ) : ℤ)
  | some (.bytes (_ :: _)) => .error .typeError
  | _ => .ok now.intTimestamp

/-- `1 if on else 0`. -/
def modeOf (on : Bool) : ℕ := if on then 1 else 0

/-- The wanted delay, put into the state once the command is out. -/
def seedRainDelay (minutes expiry : ℤ) (notifs : ℕ) : ProtobufTask Unit := do
  stampCommand s!"rain_delay set {minutes}m" notifs
  modState fun s => { s with rainDelayMinutes := some (.int minutes.toNat) }
  let ends ← raising (DateTime.ofTimestamp expiry)
  modState fun s => { s with rainDelayEnds := some ends }

section Methods

variable (R : Radio ProtobufDevice)

/-- `set_rain_delay` between its two reads. -/
def commandRainDelay (minutes : ℤ) : ProtobufTask Unit := do
  let d ← getDev
  let now ← getClock
  let base ← raising (rainDelayBase d.state.deviceClock now)
  let expiry := base + minutes * 60
  let notifs ← sendMessage R (buildRainDelayPb minutes (some expiry))
  seedRainDelay minutes expiry notifs

/-- `_clear_rain_delay_unlocked` up to its read-back. -/
def commandRainClear : ProtobufTask Unit := do
  let notifs ← sendMessage R (buildRainDelayPb 0 none)
  stampCommand "rain_delay clear" notifs
  modState fun s => { s with rainDelayMinutes := some (.int 0), rainDelayEnds := none }

/-- `self._status_parsed`, with the rain delay as it is wanted. -/
def rainDelayConfirmed (wanted : Bool) : ProtobufTask Bool := do
  refreshStatus R false
  let d ← getDev
  pure (d.parsed && d.state.delayed == wanted)

def clearRainDelayUnlocked : ProtobufTask Bool :=
  tryFinally (do
    commandRainClear R
    rainDelayConfirmed R false) (do
      let d ← getDev
      onlyIf d.hasConnection R.disconnect)

def clearRainDelay : ProtobufTask Bool := do
  let d ← getDev
  if d.hasConnection then clearRainDelayUnlocked R else pure false

def setRainDelay (minutes : ℤ) : ProtobufTask Bool := do
  let d ← getDev
  if d.hasConnection then
    tryFinally (
      if minutes ≤ 0 then clearRainDelayUnlocked R
      else do
        refreshStatus R false
        commandRainDelay R minutes
        rainDelayConfirmed R true) R.disconnect
  else pure false

/-- `set_controller_mode` up to the comparison. -/
def commandMode (on : Bool) : ProtobufTask Unit := do
  let notifs ← sendMessage R (buildSetTimerModePb (modeOf on))
  stampCommand ("controller mode " ++ (if on then "auto" else "off")) notifs
  refreshStatus R false

def setControllerModeBody (on : Bool) : ProtobufTask Bool := do
  commandMode R on
  let d ← getDev
  pure (d.state.controllerMode == some (.int (modeOf on)))

def setControllerMode (on : Bool) : ProtobufTask Bool :=
  guardedSession R (setControllerModeBody R on)

def identifyBody (seconds : ℤ) : ProtobufTask Bool := do
  sendMessage_ R (buildIdentifyPb seconds)
  stampCommand "identify" 0
  R.sleep
  sendMessage_ R (buildIdentifyPb 0)
  pure true

def identify (seconds : ℤ) : ProtobufTask Bool := guardedSession R (identifyBody R seconds)

end Methods
end OrbitBhyve.Devices
