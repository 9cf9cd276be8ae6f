/-
# Which configurations are thrown

Loading a configuration chooses a file, reads it, and makes settings of what it holds.  Whoever
starts the program is told about a file that is not there and about one that holds no mapping.
Nothing else that is wrong with a configuration is handled: it leaves as the failure that it is.
-/

import FormatLauncher.Proofs.Console
import FormatLauncher.Proofs.Contents
import FormatLauncher.Proofs.Path
import FormatLauncher.Proofs.Session
import FormatLauncher.Proofs.Settings

namespace FormatLauncher

open Action

namespace ConfigFile

end ConfigFile

namespace CommandLine

end CommandLine

end FormatLauncher
