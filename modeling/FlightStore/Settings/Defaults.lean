/-
Resets: settings as a target starts with them.

`resetAll` resets every group and then applies the target's hook. `resetToCustom` replaces the settings by the target's
custom defaults, which are built on top of such a reset; if they are not to be had, the settings stay as they are.
-/
import FlightStore.Settings.Group

namespace FlightStore.Settings

/-- the settings after the reset of each group -/
def resetGroups (t : Target) (s : Settings) : Settings := groups.foldl (fun s g => g.reset t s) s

/-- resets every group and applies the target's hook -/
def resetAll (t : Target) (s : Settings) : Settings :=
  match t.configure with
  | some hook => hook (resetGroups t s)
  | none => resetGroups t s

/-- the settings that a target starts with -/
def defaults (t : Target) : Settings := resetAll t {}

/-- replaces the settings by the target's custom defaults; on an error they stay as they are -/
def resetToCustom (t : Target) (s : Settings) : Settings × Except DefaultsError Unit :=
  match t.customDefaults with
  | none => (s, .error .unavailable)
  | some build =>
    match build (resetAll t s) with
    | (built, .ok ()) => (built, .ok ())
    | (_, .error e) => (s, .error e)

end FlightStore.Settings
