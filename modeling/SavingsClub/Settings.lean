/-
Settings, as read from the environment.

A variable is known by its name in any letter case; of several spellings the
last counts. What is not set has a default.
-/
import SavingsClub.Environment

namespace SavingsClub

/-- What the environment decides about the service. -/
structure Settings where
  databaseUrl : Text
  custodyPrefix : Text
  /-- Whether money may be minted over HTTP. -/
  allowMint : Bool
  logLevel : Text
  deriving DecidableEq, Repr

/-- Why settings could not be read. -/
inductive SettingsFault where
  | allowMintUnreadable
  /-- The variable does not consist of characters. -/
  | allowMintTorn
  deriving DecidableEq, Repr

namespace Settings

/-- The settings of an empty environment. -/
def standard : Settings where
  databaseUrl := "sqlite:///./rosca.db"
  custodyPrefix := "scheme"
  allowMint := false
  logLevel := "INFO"

/-- A text with small ASCII letters in place of the capital ones. -/
def lowered (t : Text) : Text :=
  ⟨t.points.map fun n => if 'A'.toNat ≤ n ∧ n ≤ 'Z'.toNat then n + 32 else n⟩

def yesWords : List Text := ["true", "1", "yes", "on", "t", "y"]

def noWords : List Text := ["false", "0", "no", "off", "f", "n"]

/-- A truth value in one of its spellings, in any letter case. All spellings are
ASCII. -/
def truth? (t : Text) : Option Bool :=
  if lowered t ∈ yesWords then some true
  else if lowered t ∈ noWords then some false
  else none

/-- Whether a value allows minting. -/
def readAllowMint (t : Text) : Except SettingsFault Bool :=
  if t.isWhole then
    match truth? t with
    | some b => .ok b
    | none => .error .allowMintUnreadable
  else .error .allowMintTorn

/-- The last value given to a variable. The names looked for are ASCII. -/
def value? (env : Environment) (name : String) : Option Text :=
  (env.entries.reverse.find? (lowered ·.name = .ofString name)).map
    Variable.value

/-- The settings that an environment makes. -/
def ofEnvironment (env : Environment) : Except SettingsFault Settings := do
  let allowMint ← match value? env "allow_mint" with
    | none => pure standard.allowMint
    | some t => readAllowMint t
  return {
    databaseUrl := (value? env "database_url").getD standard.databaseUrl
    custodyPrefix :=
      (value? env "custody_account_prefix").getD standard.custodyPrefix
    allowMint := allowMint
    logLevel := (value? env "log_level").getD standard.logLevel }

/-- The account that holds the money of a scheme's round. -/
def custodyAccount (s : Settings) (schemeId : Text) : Text :=
  s.custodyPrefix ++ ":" ++ schemeId

theorem isWhole_custodyAccount {s : Settings} {schemeId : Text}
    (hlead : s.custodyPrefix.isWhole = true) (hid : schemeId.isWhole = true) :
    (s.custodyAccount schemeId).isWhole = true := by
  simp [custodyAccount, hlead, hid]

end Settings

end SavingsClub
