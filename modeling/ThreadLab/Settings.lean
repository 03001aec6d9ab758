import ThreadLab.Duration

namespace ThreadLab.Settings

def snippetPackage : Text := "com.google.snippet.thread"

def threadInterface : Text := "thread-wpan"

/-- Time to join again after a restart: six link requests five seconds apart, then four parent
requests a second apart. -/
def rejoinTimeout : Duration := .ofSeconds 40

def joinTimeout : Duration := .ofSeconds 30

def leaveTimeout : Duration := .ofSeconds 2

def callbackTimeout : Duration := .ofSeconds 1

def discoveryTimeout : Duration := .ofSeconds 20

def pollingInterval : Duration := .ofMillis 500

def packetTimeout : Duration := .ofMillis 3000

def readerStartTimeout : Duration := .ofSeconds 5

/-- The time of day that stands for never. -/
def permanent : Int := 0x7fffffffffffffff

/-- The last system level on which a Thread network is asked for as a local network. -/
def lastLevelWithLocalNetwork : Int := 34

end ThreadLab.Settings
