import ThreadLab.Vocabulary.Basic

namespace ThreadLab

inductive NdOptionType where
  | sourceLinkLayerAddress
  | targetLinkLayerAddress
  | prefixInformation
  | redirectedHeader
  | mtu
  | routeInformation
  | rdnss
deriving DecidableEq

def NdOptionType.number : NdOptionType → Int
  | .sourceLinkLayerAddress => 1
  | .targetLinkLayerAddress => 2
  | .prefixInformation => 3
  | .redirectedHeader => 4
  | .mtu => 5
  | .routeInformation => 24
  | .rdnss => 25

instance : Vocabulary NdOptionType where
  title := "NdOptionType"
  group := none
  members := [.sourceLinkLayerAddress, .targetLinkLayerAddress, .prefixInformation,
    .redirectedHeader, .mtu, .routeInformation, .rdnss]
  name
    | .sourceLinkLayerAddress => "SOURCE_LINK_LAYER_ADDRESS"
    | .targetLinkLayerAddress => "TARGET_LINK_LAYER_ADDRESS"
    | .prefixInformation => "PREFIX_INFORMATION"
    | .redirectedHeader => "REDIRECTED_HEADER"
    | .mtu => "MTU"
    | .routeInformation => "ROUTE_INFORMATION"
    | .rdnss => "RDNSS"
  code member := .number member.number

end ThreadLab
