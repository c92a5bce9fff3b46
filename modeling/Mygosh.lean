import Mygosh.Session.Release
import Mygosh.Link.Window
import Mygosh.Authz.Grants
import Mygosh.Command.Truth
import Mygosh.Client.Exit
import Mygosh.Establish.Decision
import Mygosh.Auth.Agreement
import Mygosh.Client.Codec
import Mygosh.Client.Monotone
import Mygosh.Session.Requests
import Mygosh.Session.Delivery
import Mygosh.Session.Whole
import Mygosh.Session.Silence
import Mygosh.Session.Incoming
import Mygosh.Bincoder.Codec
import Mygosh.Transport.Wire
import Mygosh.Keys.OpensshRaw
import Mygosh.Trust.KnownHosts
import Mygosh.Authz.Match
import Mygosh.Process.Signals
import Mygosh.Process.Identity
import Mygosh.Daemon.Lifecycle
import Mygosh.Daemon.Admission
import Mygosh.Config.Permissions
import Mygosh.Files.Secure
