import Pyatv.Basic
import Pyatv.Facade.Features
import Pyatv.Facade.AppleTV
import Pyatv.Support.ModelField
import Pyatv.Support.Stringify
import Pyatv.Support.Helpers
import Pyatv.Scripts.Atvremote
import Pyatv.Scripts.Arguments
import Pyatv.Scripts.Commands
import Pyatv.Scripts.Wizard
import Pyatv.Scripts.Main
