/-!
# Error codes

The codes under which problems are reported. They are stable: operators filter by them.
-/

namespace ClusterMonitor.Code

def missingRequiredOption : String := "CONFIG_1001"
def typeMismatch : String := "CONFIG_1002"
def invalidValue : String := "CONFIG_1003"
def unknownOption : String := "CONFIG_1004"
def deprecatedOption : String := "CONFIG_1005"
def parseFailed : String := "CONFIG_1006"
def sourceNotFound : String := "CONFIG_1007"
def invalidSchema : String := "CONFIG_1008"
def malformedWhitelist : String := "WHITELIST_2001"
def invalidLogSource : String := "LOGS_3001"
def invalidPattern : String := "LOGS_3002"
def readFailed : String := "LOGS_3003"
def watcherFailed : String := "SYSTEM_9001"
def internal : String := "SYSTEM_9999"

end ClusterMonitor.Code
