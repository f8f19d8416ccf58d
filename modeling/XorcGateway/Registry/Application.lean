/-
# The application table

Applications are built from rows, whether the rows come from `[[test_apps]]` or
from the database, by the same fold: create the application, insert it under
its id. A secret that is not hexadecimal leaves its platform without a key.
-/

import XorcGateway.Config
import XorcGateway.Crates
import XorcGateway.Rust.Runtime

namespace XorcGateway

open Events Rust

/-- `hmac::VerificationKey` for SHA-512, by its key bytes. -/
structure VerificationKey where
  value : List UInt8
  deriving DecidableEq

structure Application where
  id : String
  token : Option String
  iosSecret : Option VerificationKey
  androidSecret : Option VerificationKey
  webSecret : Option VerificationKey
  deriving DecidableEq

/-- What one application is created from. -/
structure AppRow where
  id : String
  token : Option String
  iosSecret : Option String
  androidSecret : Option String
  webSecret : Option String
  deriving DecidableEq

/-- The row a `[[test_apps]]` entry stands for. -/
def TestAppConfig.toRow (testApp : TestAppConfig) : AppRow where
  id := testApp.appId
  token := testApp.token
  iosSecret := testApp.secretIos
  androidSecret := testApp.secretAndroid
  webSecret := testApp.secretWeb

/-- The secret text a row has for a platform. -/
def AppRow.secretFor (row : AppRow) : Platform → Option String
  | .ios => row.iosSecret
  | .android => row.androidSecret
  | .web => row.webSecret
  | .unknown => none

/-- The key a request of the platform is verified with. -/
def Application.keyFor (app : Application) : Platform → Option VerificationKey
  | .ios => app.iosSecret
  | .android => app.androidSecret
  | .web => app.webSecret
  | .unknown => none

namespace AppRegistry

variable (X : Crates)

/-- A key from the hexadecimal text of a secret; anything else is logged and
dropped. -/
def createKey (s : List UInt8) : Option VerificationKey :=
  (X.hex.decode s).map VerificationKey.mk

def createApp (id : String) (token iosSecret androidSecret webSecret : Option String) :
    Application where
  id := id
  token := token
  iosSecret := iosSecret.bind fun s => createKey X (asBytes s)
  androidSecret := androidSecret.bind fun s => createKey X (asBytes s)
  webSecret := webSecret.bind fun s => createKey X (asBytes s)

/-- The application a row stands for. -/
def ofRow (row : AppRow) : Application :=
  createApp X row.id row.token row.iosSecret row.androidSecret row.webSecret

/-- The fold both sources of applications go through. -/
def buildApps (rows : List AppRow) : HashMap String Application :=
  rows.foldl (fun acc row => acc.insert row.id (ofRow X row)) .new

/-- The table of a gateway that does not manage its applications. -/
def testApps (config : Config) : Except Panic (HashMap String Application) := do
  let apps ← unwrap config.testApps
  return buildApps X (apps.map TestAppConfig.toRow)

/-- The row that decides what the table holds for an id: the last one, since a
later insert replaces an earlier. -/
def rowFor (rows : List AppRow) (id : String) : Option AppRow :=
  rows.reverse.find? fun row => row.id = id

theorem rowFor_concat (rows : List AppRow) (row : AppRow) (id : String) :
    rowFor (rows ++ [row]) id = if row.id = id then some row else rowFor rows id := by
  by_cases h : row.id = id <;> simp [rowFor, h]

/-- The table holds exactly the applications of its deciding rows. -/
theorem buildApps_get (rows : List AppRow) (id : String) :
    buildApps X rows id = (rowFor rows id).map (ofRow X) :=
  HashMap.foldl_insert_get AppRow.id (ofRow X) rows id

/-- The key for a platform comes from that platform's own secret, decoded. -/
theorem keyFor_ofRow (row : AppRow) (platform : Platform) :
    (ofRow X row).keyFor platform =
      (row.secretFor platform).bind fun s => createKey X (asBytes s) := by
  cases platform <;> rfl

end AppRegistry

end XorcGateway
