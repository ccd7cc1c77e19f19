import Adcli.Basic
import Adcli.Password
import Adcli.Context
import Adcli.Prepare
import Adcli.Directory
import Adcli.Kvno
import Adcli.Keytab
import Adcli.Join
import Adcli.Api
import Adcli.Writes
import Adcli.Server
import Adcli.Tools
import Adcli.ToolExit
